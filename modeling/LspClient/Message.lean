import LspClient.Json.Printer

/-!
# Messages

The JSON-RPC messages that the client writes, and what an incoming message is to it: the answer to one of
its requests, a request of the server, a notification, or nothing it knows.
-/

namespace LspClient

namespace Message

/-- The protocol version that every message carries. -/
def version : Json := .str "2.0"

def paramsMember (params : Option Json) : List (String × Json) :=
  match params with
  | some p => [("params", p)]
  | none => []

def request (id : Nat) (method : String) (params : Option Json) : Json :=
  .obj ([("id", .ofNat id), ("jsonrpc", version), ("method", .str method)] ++ paramsMember params)

def notification (method : String) (params : Option Json) : Json :=
  .obj ([("jsonrpc", version), ("method", .str method)] ++ paramsMember params)

def methodNotFoundCode : Int := -32601

/-- The answer to a request of the server: the client knows no method. -/
def methodNotFound (id : Json) (method : String) : Json :=
  .obj
    [("error", .obj
        [("code", .ofInt methodNotFoundCode), ("message", .str ("Method not found: " ++ method))]),
      ("id", id), ("jsonrpc", version)]

end Message

inductive Incoming where
  | response (id : Nat) (body : Json)
  | request (id : Json) (method : String)
  | notification (method : String) (params : Option Json)

namespace Incoming

/-- Tells what a message is. With an id and a method it is a request whatever else it holds; with an id and a
result or an error it is a response, if the id can be one of the client's. -/
def classify (message : Json) : Option Incoming :=
  let method := (message.get? "method").bind Json.str?
  let isResponse := (message.get? "result").isSome || (message.get? "error").isSome
  match message.get? "id", method, isResponse with
  | some id, none, true => id.word?.map fun n => .response n message
  | some id, some method, _ => some (.request id method)
  | none, some method, _ => some (.notification method (message.get? "params"))
  | _, _, _ => none

end Incoming

/-- A line that the server asks to be logged or shown. -/
structure LogMessage where
  kind : Nat
  text : String
deriving DecidableEq, Repr

namespace LogMessage

/-- The kinds of log messages are the numbers of one byte. -/
def kind? (v : Json) : Option Nat :=
  v.word?.filter (· < 256)

/-- Reads the parameters of a log message: an object with both fields, or an array of the two. -/
def ofJson? : Json → Option LogMessage
  | .obj members =>
    match (members.lookup "type").bind kind?, (members.lookup "message").bind Json.str? with
    | some kind, some text => some ⟨kind, text⟩
    | _, _ => none
  | .arr [kind, text] =>
    match kind? kind, text.str? with
    | some kind, some text => some ⟨kind, text⟩
    | _, _ => none
  | _ => none

def label (m : LogMessage) : String :=
  match m.kind with
  | 1 => "Error"
  | 2 => "Warn"
  | 3 => "Info"
  | _ => "Log"

def line (m : LogMessage) : String :=
  "[" ++ m.label ++ " - server] " ++ m.text

end LogMessage

end LspClient
