import LspClient.Executable
import LspClient.Shell.Run

/-!
# Launching programs

How the system finds the program of an invocation, and what the program then does. Scripts are interpreted; of
the system's own programs those are known that scripts use, and any other ends at once without having done
anything.
-/

namespace LspClient.Child

def binaryDirectories : List Location :=
  [[Bytes.ofString "bin"], [Bytes.ofString "usr", Bytes.ofString "bin"]]

def shellNames : List String := ["sh", "dash"]

/-- The directories and files that every system has. -/
def systemTree : FileTree :=
  let names := shellNames ++ ["env"] ++ Shell.utilityNames
  let directories := [["etc"], ["tmp"], ["dev"], ["root"], ["bin"], ["usr", "bin"]]
  let tree := directories.foldl (fun t d => t.addDirectory (d.map Bytes.ofString)) FileTree.empty
  let tree := tree.addFile [Bytes.ofString "etc", Bytes.ofString "passwd"]
    (Bytes.ofString "root:x:0:0:root:/root:/bin/sh\n") false
  names.foldl
    (fun t name => binaryDirectories.foldl
      (fun t d => t.put (d ++ [Bytes.ofString name]) (.file Shell.binaryMark true)) t)
    tree

def executableFile (t : FileTree) (cwd : Location) (path : Bytes) : Except OsError Bytes :=
  match t.lookup cwd path with
  | .error e => .error e
  | .ok (_, .file content true) => .ok content
  | .ok _ => .error .permissionDenied

/-- Looks for a bare name in directories. A file that may not be executed is passed over, but then that is
what the search fails with. -/
def searchFile (t : FileTree) (cwd : Location) (name : Bytes) :
    Option OsError → OsError → List Bytes → Except OsError (Bytes × Bytes)
  | denied, last, [] => .error (denied.getD last)
  | denied, _, directory :: rest =>
    let path := Path.join directory name
    match executableFile t cwd path with
    | .ok content => .ok (path, content)
    | .error .permissionDenied => searchFile t cwd name (some .permissionDenied) .permissionDenied rest
    | .error e => searchFile t cwd name denied e rest

/-- Reads the interpreter that a script names in its first line, and the word behind it. -/
def interpreter? (content : Bytes) : Option (Bytes × Option Bytes) :=
  match content with
  | 0x23 :: 0x21 :: rest =>
    let isBlank (b : UInt8) : Bool := b = 0x20 || b = 0x09
    let line := (rest.takeWhile (· ≠ 0x0A)).dropWhile isBlank
    let line := (line.reverse.dropWhile isBlank).reverse
    let path := line.takeWhile fun b => !isBlank b
    let word := (line.drop path.length).dropWhile isBlank
    some (path, if word = [] then none else some word)
  | _ => none

/-- Variables that the shell takes over from its environment. -/
def shellVariables (e : Environment) (cwd : Location) : List (Shell.Str × Shell.Str) :=
  let taken := e.entries.filterMap fun b =>
    let name := Shell.Str.ofBytes b.1
    match name with
    | c :: rest =>
      if Shell.isNameStart c && rest.all Shell.isNameChar && name ≠ "IFS".toList && name ≠ "PWD".toList then
        some (name, Shell.Str.ofBytes b.2)
      else none
    | [] => none
  ("PWD".toList, Shell.Str.ofBytes cwd.path) :: taken

/-- What stands otherwise in a tree than before. -/
def changes (before after : FileTree) : List (Location × Node) :=
  after.nodes.filter fun entry => before.node? entry.1 ≠ some entry.2

def shellProgram (t : FileTree) (cwd : Location) (e : Environment) (name : Bytes) (arguments : List Bytes)
    (step : Shell.Run Unit) : Program where
  react supply :=
    let start : Shell.State :=
      { assigned := shellVariables e cwd
        name := Shell.Str.ofBytes name
        arguments := arguments.map Shell.Str.ofBytes
        input := Shell.Str.ofBytes supply.input
        inputEnded := supply.closed
        tree := t
        cwd := cwd
        patience := supply.time }
    let (after, ending) := Shell.finalState step start
    let unread := if ending = .waiting .input then 0 else after.input.length
    { consumed := supply.input.length - unread
      stdout := after.stdout.toBytes
      stderr := after.stderr.toBytes
      written := changes t after.tree
      inputClosed := !after.ownInput
      outputClosed := !after.holds .stdout
      errorsClosed := !after.holds .stderr
      ending := ending }

/-- The shell with its arguments: a script behind `-c`, or a script's file. -/
def shell (t : FileTree) (cwd : Location) (e : Environment) (name : Bytes) (arguments : List Bytes) : Program :=
  match arguments with
  | option :: rest =>
    if option = Bytes.ofString "-c" then
      match rest with
      | script :: rest =>
        shellProgram t cwd e (rest.headD name) rest.tail
          (Shell.runText Shell.maxDepth (Shell.Str.ofBytes script))
      | [] => shellProgram t cwd e name [] (do Shell.complain "-c requires an argument"; Shell.finish 2)
    else
      match t.read cwd option with
      | .ok content =>
        shellProgram t cwd e option rest (Shell.runText Shell.maxDepth (Shell.Str.ofBytes content))
      | .error err =>
        shellProgram t cwd e name [] (do
          Shell.complain ("cannot open " ++ option.display ++ ": " ++ err.words)
          Shell.finish 2)
  | [] =>
    shellProgram t cwd e name [] (do
      let s ← get
      if s.inputEnded then Shell.runText Shell.maxDepth s.input else throw (.wait .input))

def binary (t : FileTree) (cwd : Location) (e : Environment) (path name : Bytes) (arguments : List Bytes) :
    Program :=
  let base := ((Path.lastComponent? path).getD []).display
  if shellNames.contains base then shell t cwd e name arguments
  else
    shellProgram t cwd e name arguments
      ((Shell.utility? base (arguments.map Shell.Str.ofBytes)).getD (Shell.finish 0))

/-- The program in a file, called by a name. A script without an interpreter is refused, unless it may be handed
to the shell. -/
def load (t : FileTree) (cwd : Location) (e : Environment) (orShell : Bool) (path name content : Bytes)
    (arguments : List Bytes) : Except OsError Program :=
  if Shell.binaryMark.isPrefixOf content then .ok (binary t cwd e path name arguments)
  else
    match interpreter? content with
    | some (command, word) =>
      match executableFile t cwd command with
      | .error err => .error err
      | .ok _ =>
        let isEnv := Path.lastComponent? command = some (Bytes.ofString "env")
        let command := if isEnv then word.getD command else command
        .ok (binary t cwd e command command (path :: arguments))
    | none => if orShell then .ok (shell t cwd e path (path :: arguments)) else .error .badFormat

def hasZeroByte (e : Executable) : Bool :=
  let has (b : Bytes) : Bool := b.contains 0
  has e.command.path || e.arguments.any (fun a => has (Bytes.ofString a))
    || e.environment.entries.any (fun b => has b.1 || has b.2) || (e.workingDirectory.map has).getD false

/-- Launches an invocation in a tree, from the launching process's directory. A command with a separator is a
path, any other is searched for in the directories that the invocation's environment lists. -/
def launch (t : FileTree) (cwd : Location) (e : Executable) : Except LaunchError Program :=
  if hasZeroByte e then .error .zeroByte
  else
    let directory : Except OsError Location :=
      match e.workingDirectory with
      | none => .ok cwd
      | some d =>
        match t.lookup cwd d with
        | .ok (l, .directory) => .ok l
        | .ok _ => .error .notDirectory
        | .error err => .error err
    let arguments := e.arguments.map Bytes.ofString
    let launched : Except OsError Program :=
      match directory with
      | .error err => .error err
      | .ok cwd =>
        let command := e.command.path
        if command.contains Path.separator then
          match executableFile t cwd command with
          | .error err => .error err
          | .ok content => load t cwd e.environment false command command content arguments
        else
          match searchFile t cwd command none .notFound
            (Shell.searchPath (e.environment.get? (Bytes.ofString "PATH"))) with
          | .error err => .error err
          | .ok (path, content) => load t cwd e.environment true path command content arguments
    match launched with
    | .ok program => .ok program
    | .error err => .error (.system err)

end LspClient.Child
