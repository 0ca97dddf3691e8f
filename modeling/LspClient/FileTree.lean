import LspClient.Path

/-!
# File trees

The part of a file system that the client sees: directories and files under absolute paths, without links.
Operations fail for the causes that an operating system reports, in its words.
-/

namespace LspClient

inductive OsError where
  | notFound
  | permissionDenied
  | alreadyExists
  | notDirectory
  | isDirectory
  | nameTooLong
  | badFormat
deriving DecidableEq, Repr

namespace OsError

def code : OsError → Nat
  | .notFound => 2
  | .badFormat => 8
  | .permissionDenied => 13
  | .alreadyExists => 17
  | .notDirectory => 20
  | .isDirectory => 21
  | .nameTooLong => 36

def words : OsError → String
  | .notFound => "No such file or directory"
  | .badFormat => "Exec format error"
  | .permissionDenied => "Permission denied"
  | .alreadyExists => "File exists"
  | .notDirectory => "Not a directory"
  | .isDirectory => "Is a directory"
  | .nameTooLong => "File name too long"

def message (e : OsError) : String :=
  e.words ++ " (os error " ++ toString e.code ++ ")"

end OsError

/-- An absolute path without dots, as its components from the root. -/
abbrev Location := List Bytes

namespace Location

def path (l : Location) : Bytes :=
  if l = [] then [Path.separator] else l.flatMap fun part => Path.separator :: part

end Location

inductive Node where
  | directory
  | file (content : Bytes) (executable : Bool)
deriving DecidableEq, Repr

def Node.isDirectory : Node → Bool
  | .directory => true
  | .file _ _ => false

/-- Locations and what stands there. The root is a directory though it is not listed. -/
structure FileTree where
  nodes : List (Location × Node)
deriving Repr

namespace FileTree

def empty : FileTree := ⟨[]⟩

def maxNameBytes : Nat := 255

def maxPathBytes : Nat := 4095

def node? (t : FileTree) (l : Location) : Option Node :=
  if l = [] then some .directory else t.nodes.lookup l

def put (t : FileTree) (l : Location) (n : Node) : FileTree :=
  if t.nodes.any (·.1 == l) then
    ⟨t.nodes.map fun entry => if entry.1 == l then (l, n) else entry⟩
  else ⟨t.nodes ++ [(l, n)]⟩

/-- The components of a path as a lookup takes them: the double dot is one, the single dot is not. -/
def steps (p : Bytes) : List Bytes :=
  Path.components p

/-- Walks down from `base`. Every place on the way has to be a directory, the last one may be missing. -/
def walk (t : FileTree) (base : Location) : List Bytes → Except OsError Location
  | [] => .ok base
  | part :: rest =>
    match t.node? base with
    | none => .error .notFound
    | some (.file _ _) => .error .notDirectory
    | some .directory =>
      if maxNameBytes < part.length then .error .nameTooLong
      else if part = [0x2E, 0x2E] then walk t base.dropLast rest
      else walk t (base ++ [part]) rest

/-- The location that a path leads to from a working directory. -/
def locate (t : FileTree) (cwd : Location) (p : Bytes) : Except OsError Location :=
  if p = [] then .error .notFound
  else if maxPathBytes < p.length then .error .nameTooLong
  else t.walk (if Path.isAbsolute p then [] else cwd) (steps p)

/-- Whether a path asks for a directory by a separator or a dot at its end. -/
def asksDirectory (p : Bytes) : Bool :=
  p.getLast? = some Path.separator || (Path.split p).getLast? = some [0x2E]

def lookup (t : FileTree) (cwd : Location) (p : Bytes) : Except OsError (Location × Node) :=
  match t.locate cwd p with
  | .error e => .error e
  | .ok l =>
    match t.node? l with
    | none => .error .notFound
    | some n =>
      if asksDirectory p && !n.isDirectory then .error .notDirectory else .ok (l, n)

def isPresent (t : FileTree) (cwd : Location) (p : Bytes) : Bool :=
  match t.lookup cwd p with
  | .ok _ => true
  | .error _ => false

def read (t : FileTree) (cwd : Location) (p : Bytes) : Except OsError Bytes :=
  match t.lookup cwd p with
  | .error e => .error e
  | .ok (_, .directory) => .error .isDirectory
  | .ok (_, .file content _) => .ok content

def canonicalize (t : FileTree) (cwd : Location) (p : Bytes) : Except OsError Bytes :=
  match t.lookup cwd p with
  | .error e => .error e
  | .ok (l, _) => .ok l.path

/-- Makes the directories on the way that are missing, the last one too. -/
def makeAll (t : FileTree) (base : Location) : List Bytes → Except OsError FileTree
  | [] => .ok t
  | part :: rest =>
    if maxNameBytes < part.length then .error .nameTooLong
    else if part = [0x2E, 0x2E] then makeAll t base.dropLast rest
    else
      let l := base ++ [part]
      match t.node? l with
      | some .directory => makeAll t l rest
      | some (.file _ _) => .error (if rest = [] then .alreadyExists else .notDirectory)
      | none => makeAll (t.put l .directory) l rest

def createDirectories (t : FileTree) (cwd : Location) (p : Bytes) : Except OsError FileTree :=
  if maxPathBytes < p.length then .error .nameTooLong
  else t.makeAll (if Path.isAbsolute p then [] else cwd) (steps p)

/-- Finds the file to write to, which need not exist yet. -/
def target (t : FileTree) (cwd : Location) (p : Bytes) : Except OsError (Location × Bytes × Bool) :=
  match t.locate cwd p with
  | .error e => .error e
  | .ok l =>
    match t.node? l with
    | some .directory => .error .isDirectory
    | some (.file content executable) =>
      if asksDirectory p then .error .notDirectory else .ok (l, content, executable)
    | none => if asksDirectory p then .error .isDirectory else .ok (l, [], false)

def append (t : FileTree) (cwd : Location) (p : Bytes) (bytes : Bytes) : Except OsError FileTree :=
  match t.target cwd p with
  | .error e => .error e
  | .ok (l, content, executable) => .ok (t.put l (.file (content ++ bytes) executable))

/-- Puts content into a file in place of what it held, making it if it is missing. -/
def write (t : FileTree) (cwd : Location) (p : Bytes) (bytes : Bytes) : Except OsError FileTree :=
  match t.target cwd p with
  | .error e => .error e
  | .ok (l, _, executable) => .ok (t.put l (.file bytes executable))

/-- The files below a location, by their paths relative to it in ascending order. -/
def filesBelow (t : FileTree) (l : Location) : List (Bytes × Bytes) :=
  let found := t.nodes.filterMap fun entry =>
    match entry.2 with
    | .file content _ =>
      if l.isPrefixOf entry.1 then
        some ((entry.1.drop l.length).flatMap (fun part => Path.separator :: part) |>.drop 1, content)
      else none
    | .directory => none
  found.mergeSort fun a b => !(b.1 < a.1)

def addFile (t : FileTree) (l : Location) (content : Bytes) (executable : Bool) : FileTree :=
  let t := match t.makeAll [] l.dropLast with
    | .ok t => t
    | .error _ => t
  t.put l (.file content executable)

def addDirectory (t : FileTree) (l : Location) : FileTree :=
  match t.makeAll [] l with
  | .ok t => t
  | .error _ => t

end FileTree

end LspClient
