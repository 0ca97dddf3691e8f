import LspClient.Child.Launch
import LspClient.Supervisor
import LspClient.CommandLine.Arguments
import LspClient.Config.Load
import LspClient.Host

/-!
# Running the program

A whole run of the program as a function of its surroundings: what it prints, how it exits, and what the file
tree is like afterwards.
-/

namespace LspClient.CommandLine

structure Surroundings where
  tree : FileTree
  cwd : Location
  environment : Bindings
  /-- The home directory of the account, for when the environment names none. -/
  accountHome : Bytes := Bytes.ofString "/root"
  programDirectory : Bytes
  /-- Whether the program is interrupted once it waits for that. -/
  interrupted : Bool := false
  /-- How long the run is watched while it waits for its server, in milliseconds. -/
  patience : Nat := 10000

structure Conclusion where
  /-- The exit status; `none` if the program still waits, for its server or to be interrupted. -/
  status : Option Nat
  stdout : String := ""
  stderr : String := ""
  tree : FileTree
  /-- What it has launched or tried to, in order. -/
  launched : List Executable := []

def logDirectoryName : String := "logs"

def logFileName : String := "asp-client.log"

/-- The home directory: the one in the environment unless it is empty, else the account's. -/
def home (s : Surroundings) : Bytes :=
  ((Bindings.last? s.environment (Bytes.ofString "HOME")).filter (· ≠ [])).getD s.accountHome

/-- The places for the log's directory, the one to prefer first. -/
def logDirectories (s : Surroundings) : List Bytes :=
  [Path.joinText (home s) Config.directoryName, Bytes.ofString Config.directoryName].map fun d =>
    Path.joinText d logDirectoryName

def openLogIn (tree : FileTree) (cwd : Location) (directory : Bytes) : Option (FileTree × Bytes) :=
  match tree.createDirectories cwd directory with
  | .error _ => none
  | .ok tree =>
    let path := Path.joinText directory logFileName
    match tree.append cwd path [] with
    | .ok tree => some (tree, path)
    | .error _ => none

/-- Opens the log in the first place where that works; without one nothing is logged. -/
def openLog (s : Surroundings) : FileTree × Option Bytes :=
  match (logDirectories s).findSome? (openLogIn s.tree s.cwd) with
  | some (tree, path) => (tree, some path)
  | none => (s.tree, none)

def addToLog (tree : FileTree) (cwd : Location) (log : Option Bytes) (lines : List String) : FileTree :=
  match log with
  | none => tree
  | some path =>
    match tree.append cwd path (lines.flatMap fun l => Bytes.ofString (l ++ "\n")) with
    | .ok tree => tree
    | .error _ => tree

def configFailure (e : Config.Error) : Failure :=
  match e with
  | .read _ reason => ⟨e.message, [reason]⟩
  | .parse _ => ⟨e.message, []⟩

/-- Loads the configuration: the file named, or the one below the home directory; a missing file has nothing in
it. -/
def loadConfig (s : Surroundings) (tree : FileTree) (o : Options) : Except Failure Config.File :=
  let path := match o.config with
    | some p => Bytes.ofString p
    | none => Config.homePath (home s)
  match Config.File.load tree s.cwd path with
  | .ok file => .ok (file.getD {})
  | .error e => .error (configFailure e)

def findWorkspace (s : Surroundings) (tree : FileTree) (o : Options) : Except Failure (Option Bytes) :=
  match o.workspace with
  | none => .ok none
  | some w =>
    match tree.canonicalize s.cwd (Bytes.ofString w) with
    | .ok path => .ok (some path)
    | .error e => .error ((Failure.mk e.message []).within ("resolving workspace " ++ w))

def makeHost (s : Surroundings) (tree : FileTree) (o : Options) (config : Config.File) :
    Except Failure ProcessHost :=
  match findWorkspace s tree o with
  | .error e => .error e
  | .ok workspace =>
    .ok
      { root := (o.installRoot.map Bytes.ofString).getD s.programDirectory
        workspace := workspace
        traceDirectory := config.traceDirectory s.environment
        environment := s.environment
        cwd := s.cwd }

/-- Lets effects reach the files: channels are made and written to. -/
def performEffects (host : ProcessHost) (store : TraceStore) (channels : List HostChannel)
    (effects : List Effect) : TraceStore × List HostChannel :=
  effects.foldl
    (fun (store, channels) effect =>
      match effect with
      | .openedChannel _ name =>
        let (store, channel) := host.openChannel store name
        (store, channels ++ [channel])
      | .traced n line =>
        match channels[n]? with
        | some channel => (channel.append host.cwd store line, channels)
        | none => (store, channels)
      | _ => (store, channels))
    (store, channels)

def putWritten (tree : FileTree) (written : List (Location × Node)) : FileTree :=
  written.foldl (fun t entry => t.put entry.1 entry.2) tree

def runningLine : String := clientId ++ " running; press Ctrl-C to stop\n"

/-- Keeps a server running until interrupted. -/
def keepRunning (s : Surroundings) (tree : FileTree) (log : Option Bytes) (host : ProcessHost)
    (manager : Manager) (client : Session → Client) : Conclusion :=
  let (started, result, effects) :=
    Supervisor.activate { manager := manager } s.patience host.toHost client (Child.launch tree s.cwd)
  let (store, channels) := performEffects host ⟨tree, []⟩ [] effects
  match result with
  | .active =>
    let (rested, effects) := started.rest s.patience
    let (store, channels) := performEffects host store channels effects
    if s.interrupted then
      let written := (rested.client.map Client.written).getD []
      let (ended, result, effects) := rested.deactivate s.patience
      let (store, _) := performEffects host store channels effects
      let tree := putWritten (addToLog store.tree s.cwd log store.log) written
      match result with
      | .failed e => ⟨some 1, runningLine, e.report, tree, ended.launched⟩
      | .dropped => ⟨none, runningLine, "", tree, ended.launched⟩
      | _ => ⟨some 0, runningLine, "", tree, ended.launched⟩
    else ⟨none, runningLine, "", addToLog store.tree s.cwd log store.log, rested.launched⟩
  | .failed e =>
    ⟨some 1, "", (e.failure.within "activating the ASP language client").report,
      addToLog store.tree s.cwd log store.log, started.launched⟩
  | .dropped => ⟨none, "", "", addToLog store.tree s.cwd log store.log, started.launched⟩

def perform (s : Surroundings) (tree : FileTree) (log : Option Bytes) (client : Session → Client)
    (o : Options) (command : Command) : Conclusion :=
  let prepared : Except Failure (Config.File × ProcessHost) :=
    match loadConfig s tree o with
    | .error e => .error e
    | .ok config =>
      match makeHost s tree o config with
      | .error e => .error e
      | .ok host => .ok (config, host)
  match prepared with
  | .error e => ⟨some 1, "", e.report, tree, []⟩
  | .ok (config, host) =>
    let manager : Manager := { settings := config.settings s.environment }
    match command with
    | .run => keepRunning s tree log host manager client
    | .resolve =>
      match manager.serverCommand host.toHost with
      | .ok location => ⟨some 0, location.path.display ++ "\n", "", tree, []⟩
      | .error e => ⟨some 1, "", (Failure.mk e.message []).report, tree, []⟩

def optionHelp : String :=
  String.join
    ["Options:\n",
      "      --install-root <INSTALL_ROOT>  Install root holding server/<platform>/asp-lsp ",
      "(default: the binary's directory)\n",
      "      --workspace <WORKSPACE>        Workspace folder reported to the server\n",
      "      --config <CONFIG>              Config file (default: ~/.asp-client/config.toml)\n",
      "  -h, --help                         Print help\n"]

def summary : Command → String
  | .run => "Start the server and keep it running until Ctrl-C"
  | .resolve => "Print the server command that \x60run\x60 would launch"

def help : Option Command → String
  | none =>
    "Launch and manage the ASP language server\n\nUsage: asp-client [OPTIONS] [COMMAND]\n\nCommands:\n"
      ++ "  run      " ++ summary .run ++ "\n  resolve  " ++ summary .resolve ++ "\n"
      ++ "  help     Print this message or the help of the given subcommand(s)\n\n" ++ optionHelp
  | some c => summary c ++ "\n\nUsage: asp-client " ++ c.name ++ " [OPTIONS]\n\n" ++ optionHelp

/-- Runs the program. The log is opened before anything else; `client` makes the client of a session. -/
def run (s : Surroundings) (client : Session → Client) (arguments : List String) : Conclusion :=
  let (tree, log) := openLog s
  match request arguments with
  | .perform options command => perform s tree log client options command
  | .help command => ⟨some 0, help command, "", tree, []⟩
  | .misuse => ⟨some 2, "", "error: invalid arguments\n\nFor more information, try '--help'.\n", tree, []⟩

end LspClient.CommandLine
