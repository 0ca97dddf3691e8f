import LspClient.Executable
import LspClient.Initialize
import LspClient.Selector

/-!
# Sessions

What a session is made of: who the client is, how its server is invoked, and what is agreed with the server.
-/

namespace LspClient

/-- How the client calls itself: a short key and a title. -/
structure Identity where
  id : String
  name : String
deriving DecidableEq, Repr

def clientId : String := "asp-lsp"

/-- The language that the server is registered for. -/
def languageId : String := "asp"

def traceChannelName : String := "asp-lsp trace"

def Identity.default : Identity := ⟨clientId, Initialize.clientName⟩

/-- What the server is registered for and how its traffic is traced. -/
structure Protocol where
  selector : DocumentSelector
  channel : String
  traceLevel : TraceLevel
  workspace : Option Bytes
deriving DecidableEq, Repr

structure Session where
  identity : Identity
  transport : Transport
  protocol : Protocol
  mode : LaunchMode
deriving DecidableEq, Repr

namespace Session

def executable (s : Session) : Executable :=
  s.transport.executable s.mode

end Session

/-- Where a session stands in its life. -/
inductive SessionState where
  | uninitialized
  | starting
  | running
  | stopped
deriving DecidableEq, Repr

namespace SessionState

def name : SessionState → String
  | .uninitialized => "uninitialized"
  | .starting => "starting"
  | .running => "running"
  | .stopped => "stopped"

def default : SessionState := .uninitialized

/-- Whether there is a session that was not stopped yet. -/
def isActive : SessionState → Bool
  | .starting | .running => true
  | _ => false

def all : List SessionState := [.uninitialized, .starting, .running, .stopped]

end SessionState

end LspClient
