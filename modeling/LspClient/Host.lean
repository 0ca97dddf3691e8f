import LspClient.Environment
import LspClient.Platform
import LspClient.Trace.Channel

/-!
# Hosts

What the session manager is told by the program around it: where it is installed, on which platform and in
which environment it runs, and which workspace is open. The process host also makes trace channels, as files
in a directory if it has one and else through the program's log.
-/

namespace LspClient

structure Host where
  root : Bytes
  platform : Platform
  environment : Bindings
  workspace : Option Bytes
deriving Repr

namespace Host

def text? (h : Host) (name : String) : Option String :=
  (Bindings.last? h.environment (Bytes.ofString name)).bind Bytes.text?

def absolutePath (h : Host) (p : Bytes) : Bytes :=
  Path.join h.root p

end Host

/-- A host that is the process itself. -/
structure ProcessHost where
  root : Bytes
  workspace : Option Bytes := none
  traceDirectory : Option Bytes := none
  environment : Bindings := []
  cwd : Location := []
deriving Repr

/-- What channels of a process host write to. -/
structure TraceStore where
  tree : FileTree
  /-- Lines handed to the program's log, with their channel in front. -/
  log : List String := []

inductive HostChannel where
  | file (f : Trace.File)
  | log (name : String)
deriving Repr

namespace ProcessHost

def toHost (h : ProcessHost) : Host :=
  ⟨h.root, Platform.host, h.environment, h.workspace⟩

def text? (h : ProcessHost) (name : String) : Option String :=
  Bindings.text? h.environment name

/-- Makes a channel: a file if that can be opened, else a way into the log. -/
def openChannel (h : ProcessHost) (s : TraceStore) (name : String) : TraceStore × HostChannel :=
  match h.traceDirectory with
  | none => (s, .log name)
  | some directory =>
    match Trace.File.create s.tree h.cwd directory name with
    | .ok (tree, f) => ({ s with tree := tree }, .file f)
    | .error _ => (s, .log name)

end ProcessHost

namespace HostChannel

def name : HostChannel → String
  | .file f => f.name
  | .log name => name

def append (c : HostChannel) (cwd : Location) (s : TraceStore) (line : String) : TraceStore :=
  match c with
  | .file f => { s with tree := f.append s.tree cwd line }
  | .log name => { s with log := s.log ++ ["[" ++ name ++ "] " ++ line] }

end HostChannel

end LspClient
