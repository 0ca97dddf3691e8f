import LspClient.Decimal
import LspClient.Child.Basic
import LspClient.Shell.Script

/-!
# The state of a running script

A script runs until it ends or can only wait. What it has printed up to then is kept, and reading more input
or more patience takes it further.
-/

namespace LspClient.Shell

open Child (Waiting)

inductive Sink where
  | stdout
  | stderr
  | discard
  /-- Nowhere: the stream was closed. -/
  | closed
  /-- Kept for the command that reads it. -/
  | capture
  | file (path : Bytes)
deriving DecidableEq, Repr

/-- Why the commands that follow are not run. -/
inductive Halt where
  | leave (loops : Nat)
  | again (loops : Nat)
  | back
  | exit
  | wait (what : Waiting)
deriving DecidableEq, Repr

structure State where
  assigned : List (Str × Str) := []
  functions : List (Str × Command) := []
  /-- What the variables of the current function held before it made them its own. -/
  shadowed : List (Str × Option Str) := []
  arguments : List Str := []
  name : Str := "sh".toList
  process : Str := "1".toList
  status : Nat := 0
  /-- What was sent to the script and is not read yet. -/
  input : Str := []
  /-- Whether nothing more will be sent. -/
  inputEnded : Bool := false
  /-- Whether the input is still the one that the process was given. -/
  ownInput : Bool := true
  stdout : Str := []
  stderr : Str := []
  captured : Str := []
  output : Sink := .stdout
  errors : Sink := .stderr
  /-- Where the streams beyond the standard ones lead. -/
  others : List (Nat × Sink) := []
  tree : FileTree := FileTree.empty
  cwd : Location := []
  /-- How long the script may still sleep, in milliseconds. -/
  patience : Nat := 0

/-- A step that changes the state and may halt the script; what it changed stays. -/
abbrev Run := ExceptT Halt (StateM State)

namespace State

def value? (s : State) (name : Str) : Option Str :=
  s.assigned.lookup name

def set (s : State) (name value : Str) : State :=
  { s with assigned := (name, value) :: s.assigned.filter (·.1 ≠ name) }

def unset (s : State) (name : Str) : State :=
  { s with assigned := s.assigned.filter (·.1 ≠ name) }

/-- Gives a variable the value it had before. -/
def restore (before : State) (name : Str) (s : State) : State :=
  match before.value? name with
  | some v => s.set name v
  | none => s.unset name

/-- Makes a variable the current function's own. -/
def shadow (s : State) (name : Str) : State :=
  { s with shadowed := (name, s.value? name) :: s.shadowed }

/-- Ends a function: its own variables hold what they held before. -/
def unshadow (before s : State) : State :=
  let s := s.shadowed.foldl
    (fun s entry =>
      match entry.2 with
      | some v => s.set entry.1 v
      | none => s.unset entry.1)
    s
  { s with shadowed := before.shadowed }

def separators (s : State) : Str :=
  (s.value? "IFS".toList).getD [' ', '\t', '\n']

def write (s : State) (sink : Sink) (text : Str) : State :=
  match sink with
  | .stdout => { s with stdout := s.stdout ++ text }
  | .stderr => { s with stderr := s.stderr ++ text }
  | .discard | .closed => s
  | .capture => { s with captured := s.captured ++ text }
  | .file path =>
    match s.tree.append [] path text.toBytes with
    | .ok tree => { s with tree := tree }
    | .error _ => s

def sink (s : State) (stream : Nat) : Sink :=
  if stream = 1 then s.output
  else if stream = 2 then s.errors
  else (s.others.lookup stream).getD .closed

def setSink (s : State) (stream : Nat) (sink : Sink) : State :=
  if stream = 1 then { s with output := sink }
  else if stream = 2 then { s with errors := sink }
  else { s with others := (stream, sink) :: s.others.filter (·.1 ≠ stream) }

/-- Whether some stream still leads to a sink. -/
def holds (s : State) (sink : Sink) : Bool :=
  s.output = sink || s.errors = sink || s.others.any (·.2 = sink)

/-- Reads another input than the process was given. -/
def readFrom (s : State) (input : Str) : State :=
  { s with input := input, inputEnded := true, ownInput := false }

def restoreInput (before s : State) : State :=
  { s with input := before.input, inputEnded := before.inputEnded, ownInput := before.ownInput }

def restoreSinks (before s : State) : State :=
  { s with output := before.output, errors := before.errors, others := before.others }

/-- The path that a name stands for from the script's directory. -/
def absolute (s : State) (path : Str) : Bytes :=
  Path.join s.cwd.path path.toBytes

end State

def emit (text : Str) : Run Unit :=
  modify fun s => s.write s.output text

/-- Prints a message about the script itself. -/
def complain (text : String) : Run Unit :=
  modify fun s => s.write s.errors (s.name ++ (": 1: " ++ text ++ "\n").toList)

def finish (status : Nat) : Run Unit :=
  modify fun s => { s with status := status }

/-- Runs a step and then mends the state, given the one before. -/
def mending (mend : State → State → State) (step : Run Unit) : Run Unit :=
  fun s => let (result, after) := step s; (result, mend s after)

end LspClient.Shell
