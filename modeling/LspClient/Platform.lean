import LspClient.Text.Ascii
import LspClient.Text.Blank

/-!
# Platforms

The operating systems that a server is shipped for. Any other one keeps the name it was reported under.
-/

namespace LspClient

inductive Platform where
  | windows
  | macos
  | linux
  | unsupported (name : String)
deriving DecidableEq, Repr

namespace Platform

/-- The platform with a reported name. Two systems go by two names each, and neither case nor white space
around the name matters. -/
def ofName (name : String) : Platform :=
  let key := (Text.trim name.toList).map Text.lowerAscii
  if key = "windows".toList ∨ key = "win32".toList then .windows
  else if key = "macos".toList ∨ key = "darwin".toList then .macos
  else if key = "linux".toList then .linux
  else .unsupported name

def identifier : Platform → String
  | .windows => "windows"
  | .macos => "macos"
  | .linux => "linux"
  | .unsupported name => name

def isWindows (p : Platform) : Bool :=
  p = .windows

def isSupported : Platform → Bool
  | .unsupported _ => false
  | _ => true

/-- The platform this program runs on. -/
def host : Platform := .linux

/-- No server is shipped for the platform. -/
structure Unsupported where
  name : String
deriving DecidableEq, Repr

def Unsupported.message (e : Unsupported) : String :=
  "unsupported platform: " ++ e.name

end Platform

end LspClient
