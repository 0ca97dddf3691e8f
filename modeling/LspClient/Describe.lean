import LspClient.Manager
import LspClient.Text.Quoted

/-!
# Descriptions

Managers and sessions in one line for diagnosis: each record by its name and its fields.
-/

namespace LspClient.Describe

/-- The fields of a record, each behind its name. -/
def fieldTexts (fields : List (String × String)) : List String :=
  fields.map fun f => f.1 ++ ": " ++ f.2

/-- A record with its fields. -/
def record (name : String) (fields : List (String × String)) : String :=
  name ++ " \x7b " ++ ", ".intercalate (fieldTexts fields) ++ " \x7d"

/-- A record that has more fields than it shows. -/
def openRecord (name : String) (fields : List (String × String)) : String :=
  name ++ " \x7b " ++ ", ".intercalate (fieldTexts fields ++ [".."]) ++ " \x7d"

def text (s : String) : String :=
  Text.quoted s.toList

def option {α : Type} (show_ : α → String) : Option α → String
  | some a => "Some(" ++ show_ a ++ ")"
  | none => "None"

def list (items : List String) : String :=
  "[" ++ ", ".intercalate items ++ "]"

def mode : LaunchMode → String
  | .run => "Run"
  | .debug => "Debug"

def traceLevel : TraceLevel → String
  | .off => "Off"
  | .messages => "Messages"
  | .verbose => "Verbose"

def state : SessionState → String
  | .uninitialized => "Uninitialized"
  | .starting => "Starting"
  | .running => "Running"
  | .stopped => "Stopped"

def identity (i : Identity) : String :=
  record "ClientIdentity" [("id", text i.id), ("name", text i.name)]

def settings (s : Settings) : String :=
  record "ClientSettings"
    [("server_path", option text s.serverPath), ("log_level", text s.logLevel), ("mode", mode s.mode),
      ("trace_level", traceLevel s.traceLevel)]

def environment (e : Environment) : String :=
  let shown := e.entries.map fun b => Text.quotedBytes b.1 ++ ": " ++ Text.quotedBytes b.2
  "\x7b" ++ ", ".intercalate shown ++ "\x7d"

def executable (e : Executable) : String :=
  record "Executable"
    [("command", "ServerLocation(" ++ Text.quotedBytes e.command.path ++ ")"),
      ("args", list (e.arguments.map text)), ("env", environment e.environment),
      ("working_dir", option Text.quotedBytes e.workingDirectory)]

def transport (t : Transport) : String :=
  record "TransportConfig" [("run", executable t.run), ("debug", executable t.debug)]

def filter (f : DocumentFilter) : String :=
  record "DocumentFilter" [("scheme", text f.scheme), ("language", text f.language)]

def protocol (p : Protocol) : String :=
  record "ProtocolConfig"
    [("document_selector", "DocumentSelector(" ++ list (p.selector.filters.map filter) ++ ")"),
      ("trace", text p.channel), ("trace_level", traceLevel p.traceLevel),
      ("workspace_root", option Text.quotedBytes p.workspace)]

def session (s : Session) : String :=
  openRecord "ClientSession"
    [("identity", identity s.identity), ("transport", transport s.transport),
      ("protocol", protocol s.protocol), ("mode", mode s.mode)]

def manager (m : Manager) : String :=
  openRecord "SessionManager"
    [("settings", settings m.settings), ("identity", identity m.identity), ("state", state m.state),
      ("session", option (fun live => session live.session) m.session)]

end LspClient.Describe
