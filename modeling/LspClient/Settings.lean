import LspClient.Json.Printer

/-!
# Launch settings

How a session is launched: the mode, how much of the wire protocol is traced, and what the user configured.
The two choices are read from JSON by their names.
-/

namespace LspClient

/-- Which of the two invocations of the server is launched. -/
inductive LaunchMode where
  | run
  | debug
deriving DecidableEq, Repr, Inhabited

/-- How much of the wire protocol is traced, from least to most. -/
inductive TraceLevel where
  | off
  | messages
  | verbose
deriving DecidableEq, Repr

/-- The name that a document chooses: a string, or an object with that one key and nothing under it. -/
def chosenName? : Json.Syntax → Option String
  | .string s => Json.Fragment.decode? s
  | .object [(key, .null)] => Json.Fragment.decode? key
  | _ => none

namespace LaunchMode

def name : LaunchMode → String
  | .run => "run"
  | .debug => "debug"

def default : LaunchMode := .run

def ofName? (s : String) : Option LaunchMode :=
  if s = "run" then some .run else if s = "debug" then some .debug else none

def ofText? (s : String) : Option LaunchMode :=
  ((Json.Document.ofChars? s.toList).bind chosenName?).bind ofName?

end LaunchMode

namespace TraceLevel

def name : TraceLevel → String
  | .off => "off"
  | .messages => "messages"
  | .verbose => "verbose"

def default : TraceLevel := .messages

def ofName? (s : String) : Option TraceLevel :=
  if s = "off" then some .off
  else if s = "messages" then some .messages
  else if s = "verbose" then some .verbose
  else none

def ofText? (s : String) : Option TraceLevel :=
  ((Json.Document.ofChars? s.toList).bind chosenName?).bind ofName?

/-- Whether single messages are traced at all. -/
def tracesMessages (l : TraceLevel) : Bool :=
  l ≠ .off

/-- The place of a level in the order from least to most. -/
def rank : TraceLevel → Nat
  | .off => 0
  | .messages => 1
  | .verbose => 2

end TraceLevel

/-- What the user configured for launching a server. -/
structure Settings where
  /-- The server command used where the environment names none. -/
  serverPath : Option String := none
  /-- The log verbosity handed to the server. -/
  logLevel : String := "debug"
  mode : LaunchMode := LaunchMode.default
  traceLevel : TraceLevel := TraceLevel.default
deriving DecidableEq, Repr

end LspClient
