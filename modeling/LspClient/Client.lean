import LspClient.Connection.Run
import LspClient.Manager
import LspClient.Child.Basic

/-!
# Clients of child processes

A client launches its server as a child process and talks to it over a connection. Starting spawns the child and
introduces the client to it; stopping says goodbye, waits for the child to end and else kills it. Reader and writer
go on only while the client waits, for its server or for something else. What is sent to a child waits in a pipe that
holds only so much until the child reads it, so a call may never be over; `patience` says how long its caller waits.
Every child that was ever spawned is kept on record with what became of it.
-/

namespace LspClient

open Child (Program Reaction Supply LaunchError)

inductive ChildState where
  | alive
  | exited (status : Nat)
  | killed
deriving DecidableEq, Repr

def ChildState.isAlive : ChildState → Bool
  | .alive => true
  | _ => false

/-- A server process and the connection to it. Times are in milliseconds. -/
structure Server where
  program : Program
  connection : Connection
  time : Nat := 0
  consumed : Nat := 0
  received : Nat := 0
  forwarded : Nat := 0
  /-- The lines traced so far, by the connection and from the error stream. -/
  trace : List String := []

namespace Server

/-- What the process has been given. Its input ends with the connection's writer. -/
def supply (s : Server) : Supply where
  input := s.connection.target.taken
  closed := s.connection.writer = .stopped
  time := s.time

def reaction (s : Server) : Reaction :=
  s.program.react s.supply

/-- Lets the connection go on as `run` says, after a change to it. -/
def proceed (run : Connection → Connection) (s : Server) (connection : Connection) : Server :=
  let after := run connection
  { s with connection := after, trace := s.trace ++ after.trace.drop s.connection.trace.length }

def forward (s : Server) (ended : Bool) (stream : Bytes) : Server :=
  let lines := Child.errorLines ended stream
  { s with trace := s.trace ++ lines.drop s.forwarded, forwarded := max s.forwarded lines.length }

/-- Tells the connection what a process has done since `consumed` bytes were read and `received` bytes taken, which
takes a millisecond. Streams that the process does not serve any more are closed. -/
def deliver (c : Connection) (r : Reaction) (consumed received : Nat) : Connection :=
  let c := (c.advance 1).drain (r.consumed - consumed)
  let c := match c.receive (r.stdout.drop received) with
    | .ok c => c
    | .error _ => c
  let c := if r.outputEnded then c.closeInput else c
  if r.refusesInput then c.closeOutput .brokenProcessPipe else c

/-- Takes in what the process has done with what it was given, and lets the connection go on. -/
def exchange (run : Connection → Connection) (s : Server) : Server :=
  let r := s.reaction
  let next := { s.forward r.errorsEnded r.stderr with
    consumed := max s.consumed r.consumed
    received := max s.received r.stdout.length }
  next.proceed run (deliver s.connection r s.consumed s.received)

/-- Whether an exchange would change nothing. -/
def isSettled (s : Server) : Bool :=
  let r := s.reaction
  r.consumed ≤ s.consumed && r.stdout.length ≤ s.received
    && (Child.errorLines r.errorsEnded r.stderr).length ≤ s.forwarded
    && (!r.outputEnded || s.connection.inboxEnded)
    && (!r.refusesInput || s.connection.target.room = some 0)
    && !s.connection.canStep

/-- The lines that are still traced when the process is dead and its streams have ended. -/
def lastLines (s : Server) : List String :=
  let ended := (s.forward true s.reaction.stderr).proceed Connection.run
    (deliver s.connection { ending := .exited 0 } 0 0)
  ended.trace.drop s.trace.length

/-- Goes on for some time while the client waits for something else. -/
def rest (patience : Nat) (s : Server) : Server :=
  exhaust (fun s => if s.isSettled then none else some (s.exchange Connection.run)) patience
    (s.proceed Connection.run s.connection)

def pass (s : Server) (ms : Nat) : Server :=
  { s with time := s.time + ms }.proceed Connection.runCall (s.connection.advance ms)

/-- How much time passes at most before the two sides are looked at again. -/
def longestNap : Nat := 1000

/-- How long nothing happens: the process sleeps, and the call waits for its answer. -/
def nap (s : Server) : Nat :=
  let sleep := match s.reaction.ending with
    | .waiting (.sleep ms) => ms
    | _ => longestNap
  max 1 (min longestNap (min sleep (s.connection.timer?.getD longestNap)))

def span (s : Server) : Nat :=
  if s.isSettled then s.nap else 1

/-- One exchange, or the time until there is something to exchange. -/
def turn (s : Server) : Server :=
  if s.isSettled then s.pass s.nap else s.exchange Connection.runCall

/-- The next turn, unless the call is over or the turn would take too long. -/
def turn? (limit : Nat) (s : Server) : Option Server :=
  if s.connection.call.isNone || limit < s.connection.now + s.span then none else some s.turn

/-- Waits for the call to be over, at most as long as `patience`. -/
def await (patience : Nat) (s : Server) : Server :=
  exhaust (turn? (s.connection.now + patience)) patience s

/-- Lets the process sleep on, unless that would take too long. -/
def wake? (limit : Nat) (s : Server) : Option Server :=
  match s.reaction.ending with
  | .waiting (.sleep ms) =>
    let time := s.time + max 1 ms
    if time ≤ limit then some { s with time := time } else none
  | _ => none

def awaitExit (patience : Nat) (s : Server) : Server × Option Nat :=
  let s := exhaust (wake? (s.time + patience)) patience s
  (s, s.reaction.ending.status?)

end Server

structure Client where
  identity : Identity
  executable : Executable
  protocol : Protocol
  /-- What identifies the client's own process. -/
  process : Json := .null
  clock : String := "00:00:00"
  running : Option Server := none
  /-- What it has launched or tried to, in order. -/
  launched : List Executable := []
  /-- Every child that was spawned, in order. The server that runs is the last one. -/
  children : List ChildState := []
  /-- Servers that were given up. That they are dead shows when the client waits the next time. -/
  abandoned : List Server := []
  trace : List String := []

namespace Client

def ofSession (s : Session) : Client :=
  { identity := s.identity, executable := s.executable, protocol := s.protocol }

def isRunning (c : Client) : Bool :=
  c.running.isSome

def alreadyRunning (c : Client) : Failure :=
  ⟨"client '" ++ c.identity.id ++ "' is already running", []⟩

def addLines (c : Client) (lines : List String) : Client :=
  { c with trace := c.trace ++ lines }

def settleChild (c : Client) (state : ChildState) : Client :=
  { c with children := c.children.dropLast ++ [state] }

def connect (c : Client) (program : Program) : Server where
  program := program
  connection :=
    { name := c.identity.id
      level := c.protocol.traceLevel
      clock := c.clock
      target := { window := some program.holds } }

/-- The workspace as the server is told it. -/
def rootUri (c : Client) : Except Failure (Option FileUri) :=
  match c.protocol.workspace with
  | none => .ok none
  | some root =>
    match FileUri.ofPath root with
    | .ok uri => .ok (some uri)
    | .error e => .error ((Failure.mk e.message []).within "converting workspace root to URI")

def introduce (c : Client) (root : Option FileUri) (s : Server) : Server :=
  match s.connection.start (.handshake (Initialize.params c.process root c.protocol.traceLevel)) with
  | .ok connection => s.proceed Connection.runCall connection
  | .error _ => s

def lastLines (c : Client) : List String :=
  c.abandoned.flatMap Server.lastLines

/-- Gives up a server: the call over its connection is dropped and its child is killed. -/
def abandon (c : Client) (s : Server) : Client :=
  { c.settleChild .killed with abandoned := c.abandoned ++ [{ s with connection := s.connection.cancel }] }

def outcome (connection : Connection) : Outcome :=
  match connection.returned.getLast? with
  | some ⟨_, _, .ok _⟩ => .done
  | some ⟨_, _, .error e⟩ => .failed e
  | none => .dropped

/-- Starts the client, and waits at most as long as `patience` for the handshake to be over. A child whose start
fails, or is given up before the handshake is over, is killed. -/
def start (c : Client) (patience : Nat) (launch : Executable → Except LaunchError Program) :
    Client × Outcome :=
  if c.isRunning then (c, .failed c.alreadyRunning)
  else
    let c := { c with launched := c.launched ++ [c.executable] }
    let command := c.executable.command.path.display
    match launch c.executable with
    | .error e =>
      (c.addLines ["Failed to launch server " ++ command ++ ": " ++ e.message],
        .failed ((Failure.mk e.message []).within ("spawning " ++ command)))
    | .ok program =>
      let c := { c with children := c.children ++ [ChildState.alive] }
      match c.rootUri with
      | .error e => (c.abandon (c.connect .idle), .failed e)
      | .ok root =>
        let introduced := c.introduce root (c.connect program)
        let server := introduced.await patience
        let c := { c.addLines (introduced.trace ++ c.lastLines ++ server.trace.drop introduced.trace.length) with
          abandoned := [] }
        match outcome server.connection with
        | .done => ({ c with running := some server }, .done)
        | .failed e => (c.abandon server, .failed e)
        | .dropped => (c.abandon server, .dropped)

/-- Whether starting the client comes to wait for its server. -/
def waits (c : Client) (launch : Executable → Except LaunchError Program) : Bool :=
  !c.isRunning && (launch c.executable).isOk && c.rootUri.isOk

/-- How long a server is given to answer, and then again to end. -/
def grace : Nat := 2000

/-- The goodbye to a server, which is given up when it takes longer than `patience`. -/
def goodbye (patience : Nat) (s : Server) : Server :=
  match s.connection.start (.shutdown grace) with
  | .ok connection => (s.proceed Connection.runCall connection).await patience
  | .error _ => s

/-- Waits for the child of a server that was said goodbye to, and else kills it. A child that cannot be waited for is
let go of, which kills it, but not before its error stream was given time to end. -/
def part (c : Client) (parted : Server) : Client × Outcome :=
  let (waited, status) := parted.awaitExit grace
  let reaction := waited.reaction
  let last := waited.forward (!parted.program.waitFails || reaction.errorsEnded) reaction.stderr
  let c := c.addLines (last.trace.drop parted.trace.length)
  match status, if parted.program.waitFails then none else parted.program.killFailure with
  | some status, _ => (c.settleChild (.exited status), .done)
  | none, none => (c.settleChild .killed, .done)
  | none, some reason => (c, .failed ((Failure.mk reason []).within "killing language server"))

/-- Stops the client. How the goodbye went does not matter once it is over, only that its child can be killed. Only the
answer to the goodbye is waited for with a limit; a caller that gives up on the rest kills the child by that. -/
def stop (c : Client) (patience : Nat) : Client × Outcome :=
  match c.running with
  | none => (c, .done)
  | some server =>
    let parted := goodbye patience server
    let c := { c.addLines (parted.trace.drop server.trace.length) with running := none }
    if parted.connection.call.isSome then (c.abandon parted, .dropped) else c.part parted

/-- Waits for something else than the server, which goes on meanwhile. -/
def rest (c : Client) (patience : Nat) : Client :=
  match c.running with
  | none => c
  | some s =>
    let rested := s.rest patience
    { c.addLines (rested.trace.drop s.trace.length) with running := some rested }

def written (c : Client) : List (Location × Node) :=
  match c.running with
  | some s => s.reaction.written
  | none => []

end Client

end LspClient
