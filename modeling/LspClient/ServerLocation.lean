import LspClient.Path
import LspClient.Platform

/-!
# Where the server is

A server location is a path or a bare command name that is not blank. It is given outright, or it is the
place of the server shipped for a platform below the install root.
-/

namespace LspClient

structure ServerLocation where
  path : Bytes
deriving DecidableEq, Repr

namespace ServerLocation

/-- A blank command names nothing. -/
inductive Empty where
  | emptyCommand
deriving DecidableEq, Repr

def Empty.message : Empty → String
  | .emptyCommand => "server command must not be empty"

/-- Takes a path as it is, unless it shows as blank. -/
def ofPath (p : Bytes) : Except Empty ServerLocation :=
  if Text.isBlank (Utf8.decodeLossy p) then .error .emptyCommand else .ok ⟨p⟩

def serverDirectory : String := "server"

def serverBinary : String := "asp-lsp"

/-- The place of a shipped server: a file in its platform's directory. -/
def bundled (root : Bytes) (directory file : String) : ServerLocation :=
  ⟨Path.joinText (Path.joinText (Path.joinText root serverDirectory) directory) file⟩

def display (l : ServerLocation) : String :=
  l.path.display

/-- Directory and file name of the server shipped for a platform. -/
def shipped : Platform → Except Platform.Unsupported (String × String)
  | .windows => .ok ("windows", serverBinary ++ ".exe")
  | .macos => .ok ("macos", serverBinary)
  | .linux => .ok ("linux", serverBinary)
  | .unsupported name => .error ⟨name⟩

/-- The place of the shipped server relative to the install root. -/
def layout (p : Platform) : Except Platform.Unsupported Bytes :=
  match shipped p with
  | .ok (directory, file) =>
    .ok (Path.joinText (Path.joinText (Bytes.ofString serverDirectory) directory) file)
  | .error e => .error e

/-- The command to start: a given one that is not blank as it stands, or else the shipped server. -/
def resolve (p : Platform) (given : Option String) (root : Bytes) :
    Except Platform.Unsupported ServerLocation :=
  match given.map fun command => ofPath (Bytes.ofString command) with
  | some (.ok location) => .ok location
  | _ =>
    match shipped p with
    | .ok (directory, file) => .ok (bundled root directory file)
    | .error e => .error e

end ServerLocation

end LspClient
