import LspClient.Config.Expand
import LspClient.Config.Toml.Parser
import LspClient.FileTree
import LspClient.Settings
import LspClient.Text.Blank

/-!
# The configuration file

Two sections, one for the server and one for tracing, in which every key is optional. A section may also be
written as an array of its fields in order; then only those with a default may be left out.
-/

namespace LspClient.Config

structure ServerSection where
  path : Option String := none
  logLevel : Option String := none
  mode : LaunchMode := LaunchMode.default
deriving DecidableEq, Repr

structure TraceSection where
  level : TraceLevel := TraceLevel.default
  directory : Option String := none
deriving DecidableEq, Repr

structure File where
  server : Option ServerSection := none
  trace : Option TraceSection := none
deriving DecidableEq, Repr

inductive Error where
  | read (path : Bytes) (reason : String)
  | parse (path : Bytes)
deriving DecidableEq, Repr

namespace Error

def message : Error → String
  | .read path reason => "failed to read config at " ++ path.display ++ ": " ++ reason
  | .parse path => "failed to parse config at " ++ path.display

def path : Error → Bytes
  | .read path _ => path
  | .parse path => path

end Error

def text? : Toml → Option String
  | .text s => some s
  | _ => none

def isEmpty : Toml → Bool
  | .array [] => true
  | .table _ [] => true
  | _ => false

/-- The name that a value chooses: a text, or a table with that one key and nothing under it. -/
def choice? : Toml → Option String
  | .text s => some s
  | .table _ [(name, v)] => if isEmpty v then some name else none
  | _ => none

def field {α : Type} (entries : Toml.Entries) (key : String) (read : Toml → Option α) : Option (Option α) :=
  match entries.lookup key with
  | none => some none
  | some v => (read v).map some

def ServerSection.ofEntries? (entries : Toml.Entries) : Option ServerSection :=
  match field entries "path" text?, field entries "log_level" text?,
    field entries "mode" (fun v => (choice? v).bind LaunchMode.ofName?) with
  | some path, some logLevel, some mode => some ⟨path, logLevel, mode.getD LaunchMode.default⟩
  | _, _, _ => none

/-- Reads the section on the server. A date counts as a section without fields. -/
def ServerSection.ofToml? : Toml → Option ServerSection
  | .table _ entries => ofEntries? entries
  | .date => some {}
  | .array (path :: logLevel :: rest) =>
    match text? path, text? logLevel, rest with
    | some path, some logLevel, [] => some ⟨some path, some logLevel, LaunchMode.default⟩
    | some path, some logLevel, mode :: _ =>
      ((choice? mode).bind LaunchMode.ofName?).map fun mode => ⟨some path, some logLevel, mode⟩
    | _, _, _ => none
  | _ => none

def TraceSection.ofEntries? (entries : Toml.Entries) : Option TraceSection :=
  match field entries "level" (fun v => (choice? v).bind TraceLevel.ofName?), field entries "dir" text? with
  | some level, some directory => some ⟨level.getD TraceLevel.default, directory⟩
  | _, _ => none

/-- Reads the section on tracing. A date counts as a section without fields. -/
def TraceSection.ofToml? : Toml → Option TraceSection
  | .table _ entries => ofEntries? entries
  | .date => some {}
  | .array (level :: directory :: _) =>
    match (choice? level).bind TraceLevel.ofName?, text? directory with
    | some level, some directory => some ⟨level, some directory⟩
    | _, _ => none
  | _ => none

namespace File

def ofEntries? (entries : Toml.Entries) : Option File :=
  match field entries "server" ServerSection.ofToml?, field entries "trace" TraceSection.ofToml? with
  | some server, some trace => some ⟨server, trace⟩
  | _, _ => none

def ofText? (s : String) : Option File :=
  (Toml.parse? s).bind ofEntries?

/-- Loads a configuration; `none` if there is no such file. -/
def load (t : FileTree) (cwd : Location) (path : Bytes) : Except Error (Option File) :=
  if !t.isPresent cwd path then .ok none
  else
    match t.read cwd path with
    | .error e => .error (.read path e.message)
    | .ok content =>
      match content.text? with
      | none => .error (.read path "stream did not contain valid UTF-8")
      | some s =>
        match ofText? s with
        | some file => .ok (some file)
        | none => .error (.parse path)

/-- A configured value after expansion, unless that is blank. -/
def expanded (environment : Bindings) (value : Option String) : Option String :=
  (value.map (expand environment)).filter fun s => !Text.isBlank s.toList

/-- The launch settings that a configuration amounts to. -/
def settings (f : File) (environment : Bindings) : Settings where
  serverPath := expanded environment (f.server.bind ServerSection.path)
  logLevel := (f.server.bind ServerSection.logLevel).getD ({} : Settings).logLevel
  mode := (f.server.map ServerSection.mode).getD LaunchMode.default
  traceLevel := (f.trace.map TraceSection.level).getD TraceLevel.default

def traceDirectory (f : File) (environment : Bindings) : Option Bytes :=
  (expanded environment (f.trace.bind TraceSection.directory)).map Bytes.ofString

end File

/-- The client's own directory below the home directory. -/
def directoryName : String := ".asp-client"

def homePath (home : Bytes) : Bytes :=
  Path.joinText (Path.joinText home directoryName) "config.toml"

end LspClient.Config
