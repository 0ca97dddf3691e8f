import LspClient.FileTree
import LspClient.Text.Ascii

/-!
# Trace channels

A channel takes lines under a display name. It keeps them in memory, appends them to a file named after the
channel, or hands them to the log of the program.
-/

namespace LspClient.Trace

/-- A channel that keeps its lines. -/
structure Memory where
  name : String
  lines : List String := []
deriving DecidableEq, Repr

namespace Memory

def append (m : Memory) (line : String) : Memory :=
  { m with lines := m.lines ++ [line] }

def startsWith : List Char → List Char → Bool
  | _, [] => true
  | [], _ :: _ => false
  | a :: s, b :: t => a = b && startsWith s t

/-- Whether one row of characters stands somewhere in another. -/
def holds (needle : List Char) : List Char → Bool
  | [] => needle.isEmpty
  | c :: rest => startsWith (c :: rest) needle || holds needle rest

/-- Whether a text stands within one of the lines. -/
def contains (m : Memory) (needle : String) : Bool :=
  m.lines.any fun line => holds needle.toList line.toList

end Memory

/-- One character of a file name: letters, digits, `-` and `_` stay, in small letters, and anything else
becomes a hyphen. -/
def slugChar (c : Char) : Char :=
  if Text.isAlphanumeric c || c = '-' || c = '_' then Text.lowerAscii c else '-'

/-- The file name for a channel without its ending. A channel without a name is called `trace`. -/
def slug (name : String) : String :=
  if name.toList = [] then "trace" else String.ofList (name.toList.map slugChar)

def fileName (name : String) : String :=
  slug name ++ ".log"

/-- A channel that appends to a file. -/
structure File where
  name : String
  path : Bytes
deriving DecidableEq, Repr

namespace File

/-- Opens the file of a channel in a directory, making both if they are missing. -/
def create (t : FileTree) (cwd : Location) (directory : Bytes) (name : String) :
    Except OsError (FileTree × File) :=
  match t.createDirectories cwd directory with
  | .error e => .error e
  | .ok t =>
    let path := Path.joinText directory (fileName name)
    match t.append cwd path [] with
    | .error e => .error e
    | .ok t => .ok (t, ⟨name, path⟩)

def append (f : File) (t : FileTree) (cwd : Location) (line : String) : FileTree :=
  match t.append cwd f.path (Bytes.ofString (line ++ "\n")) with
  | .ok t => t
  | .error _ => t

end File

end LspClient.Trace
