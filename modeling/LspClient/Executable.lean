import LspClient.Environment
import LspClient.ServerLocation
import LspClient.Settings

/-!
# Invocations of the server

A complete invocation: command, arguments, the whole environment and the working directory. A transport
holds one for running and one for debugging, which are the same unless a debug variant is given.
-/

namespace LspClient

structure Executable where
  command : ServerLocation
  arguments : List String := []
  environment : Environment := Environment.empty
  workingDirectory : Option Bytes := none
deriving DecidableEq, Repr

/-- The variable that tells a server how much to log. -/
def logVariable : String := "RUST_LOG"

/-- The variable that names the server command. -/
def commandVariable : String := "SERVER_PATH"

namespace Executable

def setVariable (e : Executable) (key value : Bytes) : Executable :=
  { e with environment := e.environment.insert key value }

def value? (e : Executable) (key : String) : Option Bytes :=
  e.environment.get? (Bytes.ofString key)

end Executable

structure Transport where
  run : Executable
  debug : Executable
deriving DecidableEq, Repr

namespace Transport

/-- Runs a command in an inherited environment, with the log verbosity set. -/
def make (command : ServerLocation) (inherited : Bindings) (logLevel : String) : Transport :=
  let run : Executable :=
    Executable.setVariable ⟨command, [], Environment.ofBindings inherited, none⟩
      (Bytes.ofString logVariable) (Bytes.ofString logLevel)
  ⟨run, run⟩

def executable (t : Transport) : LaunchMode → Executable
  | .run => t.run
  | .debug => t.debug

end Transport

end LspClient
