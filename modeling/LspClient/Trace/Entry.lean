import LspClient.Json.Printer
import LspClient.Settings

/-!
# Trace entries for messages

One entry tells that a message was sent or received: when, what kind it is, its method and its id. At the
verbose level the entry goes on with the body of the message.
-/

namespace LspClient.Trace

inductive Direction where
  | send
  | receive
deriving DecidableEq, Repr

def Direction.verb : Direction → String
  | .send => "Sending"
  | .receive => "Received"

/-- The kind of a message in the trace. -/
inductive Kind where
  | request
  | notification
  | response
deriving DecidableEq, Repr

def Kind.word : Kind → String
  | .request => "request"
  | .notification => "notification"
  | .response => "response"

/-- The member of a message that holds its body. -/
inductive Body where
  | params
  | error
  | result
deriving DecidableEq, Repr

def Body.key : Body → String
  | .params => "params"
  | .error => "error"
  | .result => "result"

def Body.label : Body → String
  | .params => "Params"
  | .error => "Error"
  | .result => "Result"

/-- The id of a message, where null counts as no id. -/
def shownId? (message : Json) : Option Json :=
  (message.get? "id").filter fun id => !id.isNull

def method? (message : Json) : Option String :=
  (message.get? "method").bind Json.str?

/-- The kind of a message and where its body is. -/
def kindOf (message : Json) : Kind × Body :=
  match method? message, shownId? message with
  | some _, some _ => (.request, .params)
  | some _, none => (.notification, .params)
  | none, _ => if (message.get? "error").isSome then (.response, .error) else (.response, .result)

def header (clock : String) (direction : Direction) (message : Json) : String :=
  let named :=
    match method? message with
    | some m => " '" ++ m ++ "'"
    | none => ""
  let numbered :=
    match shownId? message with
    | some id => " (id: " ++ id.compact ++ ")"
    | none => ""
  "[Trace - " ++ clock ++ "] " ++ direction.verb ++ " " ++ (kindOf message).1.word ++ named ++ numbered
    ++ "."

/-- The lines of a body, if the message has it. -/
def body (message : Json) : String :=
  let b := (kindOf message).2
  match message.get? b.key with
  | some v => "\n" ++ b.label ++ ": " ++ v.pretty
  | none => ""

/-- The entry for a message at a time of day, if the level calls for one. -/
def entry (clock : String) (direction : Direction) (message : Json) : TraceLevel → Option String
  | .off => none
  | .messages => some (header clock direction message)
  | .verbose => some (header clock direction message ++ body message)

end LspClient.Trace
