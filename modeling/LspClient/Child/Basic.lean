import LspClient.FileTree

/-!
# Child processes

A program is known by how it reacts to what it has been given so far: what it has printed by then, and
whether it has ended or waits for more. It is asked again from the start whenever it is given more, so
nothing has to be assumed about how it works inside.
-/

namespace LspClient.Child

inductive Waiting where
  | input
  /-- Time, in milliseconds beyond what it was given. -/
  | sleep (milliseconds : Nat)
  /-- Nothing: it goes on for ever. -/
  | busy
deriving DecidableEq, Repr

/-- How many bytes a pipe holds as a rule before whoever sends more has to wait. -/
def pipeCapacity : Nat := 65536

inductive Ending where
  | exited (status : Nat)
  | waiting (what : Waiting)
deriving DecidableEq, Repr

namespace Ending

/-- The status with which the process has ended by itself. -/
def status? : Ending → Option Nat
  | .exited status => some status
  | .waiting _ => none

def isExited (e : Ending) : Bool :=
  e.status?.isSome

end Ending

structure Supply where
  input : Bytes := []
  /-- Whether nothing more will be sent. -/
  closed : Bool := false
  /-- The time to sleep that has passed, in milliseconds. -/
  time : Nat := 0

structure Reaction where
  consumed : Nat := 0
  stdout : Bytes := []
  stderr : Bytes := []
  written : List (Location × Node) := []
  /-- Whether it has closed its streams, though it may go on. -/
  inputClosed : Bool := false
  outputClosed : Bool := false
  errorsClosed : Bool := false
  ending : Ending

namespace Reaction

/-- Whether what is sent to the process cannot arrive any more. -/
def refusesInput (r : Reaction) : Bool :=
  r.inputClosed || r.ending.isExited

def outputEnded (r : Reaction) : Bool :=
  r.outputClosed || r.ending.isExited

def errorsEnded (r : Reaction) : Bool :=
  r.errorsClosed || r.ending.isExited

end Reaction

structure Program where
  react : Supply → Reaction
  /-- How many bytes of its input it may leave unread. -/
  holds : Nat := pipeCapacity
  killFailure : Option String := none
  /-- Whether it cannot be told when the process ends. -/
  waitFails : Bool := false

def Program.idle : Program where
  react _ := { ending := .waiting .busy }

inductive LaunchError where
  | system (e : OsError)
  /-- A zero byte stands where the system would take it for the end. -/
  | zeroByte
deriving DecidableEq, Repr

def LaunchError.message : LaunchError → String
  | .system e => e.message
  | .zeroByte => "nul byte found in provided data"

/-- Splits bytes at every line feed; the last piece has none behind it. -/
def splitLines (piece : Bytes) : Bytes → List Bytes × Bytes
  | [] => ([], piece.reverse)
  | b :: rest =>
    if b = 0x0A then
      let (lines, last) := splitLines [] rest
      (piece.reverse :: lines, last)
    else splitLines (b :: piece) rest

def dropReturn (line : Bytes) : Bytes :=
  if line.getLast? = some 0x0D then line.dropLast else line

/-- The texts of lines up to the first that is not text. -/
def textLines : List Bytes → List String
  | [] => []
  | line :: rest =>
    match line.text? with
    | some s => s :: textLines rest
    | none => []

/-- The lines of an error stream that can be forwarded: those that are complete and, once the stream has
ended, what stands behind them. Lines are forwarded only up to the first that is not text. -/
def errorLines (ended : Bool) (stream : Bytes) : List String :=
  let (lines, last) := splitLines [] stream
  textLines (lines.map dropReturn ++ if ended && !last.isEmpty then [last] else [])

end LspClient.Child
