import LspClient.CommandLine.Run

/-!
# The program

Reads the surroundings of a run, has it computed, and carries out what it came to. Only files that the run may
look at are read. No process is made: a server is run as `Child.launch` says, which interprets scripts and knows
no other server.
-/

namespace LspClient.CommandLine

/-- The bindings of an environment in which each ends with a zero byte. The name goes up to the first equals sign
behind its first byte. -/
def bindingsOf (block : Bytes) : Bindings :=
  (Shell.splitAt 0 [] block).filterMap fun entry =>
    match entry with
    | [] => none
    | b :: rest =>
      let name := rest.takeWhile (· ≠ 0x3D)
      match rest.drop name.length with
      | _ :: value => some (b :: name, value)
      | [] => none

/-- Where a command may be found. -/
def commandPlaces (s : Surroundings) (command : Bytes) : List Bytes :=
  if command.contains Path.separator then [command]
  else
    (Shell.searchPath (Bindings.last? s.environment (Bytes.ofString "PATH"))).map fun d => Path.join d command

/-- The paths that carrying out a command line may look at, as far as the tree shows them. -/
def places (s : Surroundings) (arguments : List String) : List Bytes :=
  let logs := (logDirectories s).map fun d => Path.joinText d logFileName
  match request arguments with
  | .perform o _ =>
    let config := [(o.config.map Bytes.ofString).getD (Config.homePath (home s))]
    let workspace := (o.workspace.map fun w => [Bytes.ofString w]).getD []
    let described := match loadConfig s s.tree o with
      | .error _ => []
      | .ok file =>
        let host : ProcessHost :=
          { root := (o.installRoot.map Bytes.ofString).getD s.programDirectory, environment := s.environment }
        let manager : Manager := { settings := file.settings s.environment }
        let command := match manager.serverCommand host.toHost with
          | .ok location => commandPlaces s location.path
          | .error _ => []
        let traces := match file.traceDirectory s.environment with
          | some d => [Path.joinText d (Trace.fileName traceChannelName)]
          | none => []
        command ++ traces
    logs ++ config ++ workspace ++ described
  | _ => logs

/-- Takes over into a tree what stands at a location and above it. -/
def observe (tree : FileTree) (l : Location) : IO FileTree := do
  let mut tree := tree
  for n in List.range l.length do
    let above : Location := l.take (n + 1)
    let some text := above.path.text? | continue
    let place := (← IO.currentDir) / text
    if ← place.isDir then tree := tree.put above .directory
    else if ← place.pathExists then
      let content := (← IO.FS.readBinFile place).toList
      tree := tree.put above (.file content true)
  return tree

def observeAll (s : Surroundings) (arguments : List String) : IO Surroundings := do
  let mut tree := s.tree
  for p in places s arguments do
    tree ← observe tree ((if Path.isAbsolute p then [] else s.cwd) ++ Path.components p)
  return { s with tree := tree }

/-- Brings the files up to date with a tree. -/
def writeOut (before after : FileTree) : IO Unit := do
  for (l, node) in Child.changes before after do
    let some text := l.path.text? | continue
    match node with
    | .directory => IO.FS.createDirAll text
    | .file content _ => IO.FS.writeBinFile text ⟨content.toArray⟩

def surroundings (arguments : List String) : IO Surroundings := do
  let cwd := Bytes.ofString (← IO.currentDir).toString
  let program := ((← IO.appPath).parent.map fun d => Bytes.ofString d.toString).getD cwd
  let block ← IO.FS.readBinFile "/proc/self/environ"
  let bare : Surroundings :=
    { tree := Child.systemTree
      cwd := Path.components cwd
      environment := bindingsOf block.toList
      programDirectory := program }
  let bare := { bare with tree := ← observe bare.tree bare.cwd }
  observeAll (← observeAll bare arguments) arguments

/-- Brings the files up to date with what a run came to, and reports its failure. -/
def conclude (before : FileTree) (c : Conclusion) : IO UInt32 := do
  writeOut before c.tree
  IO.eprint c.stderr
  return (c.status.getD 0).toUInt32

def processNumber : IO Nat := do
  let stat ← IO.FS.readFile "/proc/self/stat"
  return Decimal.value (stat.toList.takeWhile Decimal.isDigit)

def twoDigits (n : Nat) : String :=
  if n < 10 then "0" ++ Decimal.render n else Decimal.render n

def timeOfDay (seconds : Nat) : String :=
  let minutes := seconds / 60
  twoDigits (minutes / 60 % 24) ++ ":" ++ twoDigits (minutes % 60) ++ ":" ++ twoDigits (seconds % 60)

/-- The time of day now, which is when the entry of this process was last looked up. -/
def clockNow : IO String := do
  let found ← ((← IO.currentDir) / "/proc/self/stat").metadata
  return timeOfDay found.modified.sec.toNat

partial def waitForEnd (input : IO.FS.Stream) : IO Unit := do
  if !(← input.getLine).isEmpty then waitForEnd input

end LspClient.CommandLine

open LspClient in
/-- Runs the program. A server that runs is stopped when the standard input ends. -/
def main (arguments : List String) : IO UInt32 := do
  let s ← CommandLine.surroundings arguments
  let process := Json.ofNat (← CommandLine.processNumber)
  let clock ← CommandLine.clockNow
  let client (session : Session) : Client := { Client.ofSession session with process := process, clock := clock }
  let first := CommandLine.run s client arguments
  IO.print first.stdout
  (← IO.getStdout).flush
  match first.status with
  | some _ => CommandLine.conclude s.tree first
  | none =>
    CommandLine.waitForEnd (← IO.getStdin)
    CommandLine.conclude s.tree (CommandLine.run { s with interrupted := true } client arguments)
