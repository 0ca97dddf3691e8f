import LspClient.Text.Utf8

/-!
# The command line

Three options and a command. An option may stand before or after the command; each may be given once in either
place, and the later one counts.
-/

namespace LspClient.CommandLine

inductive Command where
  /-- Keep a server running until interrupted. -/
  | run
  /-- Print the command that would be launched. -/
  | resolve
deriving DecidableEq, Repr

def Command.name : Command → String
  | .run => "run"
  | .resolve => "resolve"

def Command.ofName? (s : String) : Option Command :=
  [Command.run, .resolve].find? fun c => c.name = s

structure Options where
  installRoot : Option String := none
  workspace : Option String := none
  config : Option String := none
deriving DecidableEq, Repr

namespace Options

/-- Sets an option by its name. An unknown name, an empty value and an option that is set already are refused. -/
def set? (o : Options) (name value : String) : Option Options :=
  if value = "" then none
  else
    match name with
    | "install-root" => if o.installRoot.isSome then none else some { o with installRoot := some value }
    | "workspace" => if o.workspace.isSome then none else some { o with workspace := some value }
    | "config" => if o.config.isSome then none else some { o with config := some value }
    | _ => none

/-- Options given later go before those given earlier. -/
def overlay (later earlier : Options) : Options where
  installRoot := later.installRoot.or earlier.installRoot
  workspace := later.workspace.or earlier.workspace
  config := later.config.or earlier.config

end Options

inductive Request where
  | perform (options : Options) (command : Command)
  | help (command : Option Command)
  | misuse
deriving DecidableEq, Repr

def splitOption (cs : List Char) : String × Option String :=
  let name := cs.takeWhile (· ≠ '=')
  match cs.drop name.length with
  | _ :: value => (String.ofList name, some (String.ofList value))
  | [] => (String.ofList name, none)

/-- Whether an argument can be the value of an option: options cannot, but a single dash can. -/
def isValue (s : String) : Bool :=
  s.toList.head? ≠ some '-' || s = "-"

/-- Reads the arguments behind a command, or in front of it while there is none yet. `earlier` holds the options in
front of the command and `options` those read since. -/
def readArguments (command : Option Command) (earlier options : Options) : List String → Request
  | [] => .perform (options.overlay earlier) (command.getD .run)
  | argument :: rest =>
    match argument.toList with
    | '-' :: '-' :: [] =>
      if rest = [] then .perform (options.overlay earlier) (command.getD .run) else .misuse
    | '-' :: '-' :: cs =>
      match splitOption cs with
      | (name, some value) =>
        match options.set? name value with
        | some options => readArguments command earlier options rest
        | none => .misuse
      | (name, none) =>
        if name = "help" then .help command
        else
          match rest with
          | [] => .misuse
          | value :: rest =>
            if isValue value then
              match options.set? name value with
              | some options => readArguments command earlier options rest
              | none => .misuse
            else .misuse
    | '-' :: 'h' :: _ => .help command
    | _ =>
      match command, Command.ofName? argument with
      | none, some c => readArguments (some c) options {} rest
      | none, none =>
        if argument = "help" then
          match rest with
          | [] => .help none
          | [name] =>
            match Command.ofName? name with
            | some c => .help (some c)
            | none => if name = "help" then .help none else .misuse
          | _ => .misuse
        else .misuse
      | some _, _ => .misuse

def request (arguments : List String) : Request :=
  readArguments none {} {} arguments

end LspClient.CommandLine
