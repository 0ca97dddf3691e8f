import LspClient.Connection.Actors

/-!
# Running a connection

Events from outside, and the schedules that let the actors go on in turn. In the first, which ends when each
actor can only wait, the reader takes everything it can, then the call goes on, then the writer sends what is
queued. In the second, which ends with the call, the owner is the last to go on.
-/

namespace LspClient

/-- Repeats a step as often as it can be made, at most `fuel` times. -/
def exhaust {α : Type} (step : α → Option α) : Nat → α → α
  | 0, a => a
  | fuel + 1, a =>
    match step a with
    | some a => exhaust step fuel a
    | none => a

namespace Connection

inductive Refusal where
  /-- Another call is not finished. -/
  | busy
  /-- A shutdown has used up the connection. -/
  | gone
deriving DecidableEq, Repr

inductive Undelivered where
  | closed
  /-- The reader has ended. -/
  | unread
deriving DecidableEq, Repr

/-- Begins a request: it takes an id, and registers unless a stream has failed. -/
def beginRequest (c : Connection) (goal : Goal) : Connection :=
  let id := c.nextId
  let c := { c with nextId := id + 1 }
  match c.pending with
  | some ids => { c with pending := some (ids ++ [id]), call := some ⟨goal, .sending id, .empty⟩ }
  | none => c.afterRequest ⟨goal, .sending id, .empty⟩ none (.error (.closed c.name))

def start (c : Connection) (goal : Goal) : Except Refusal Connection :=
  if c.call.isSome then .error .busy
  else if c.usedUp then .error .gone
  else
    match goal with
    | .notify _ _ => .ok { c with call := some ⟨goal, .notifying (.ok .done), .empty⟩ }
    | _ => .ok (c.beginRequest goal)

/-- Drops the current call. Its request stays registered, and a shutdown takes the connection with it. -/
def cancel (c : Connection) : Connection :=
  { c with call := none, usedUp := c.usedUp || c.call.any fun call => Goal.isShutdown call.goal }

def receive (c : Connection) (bytes : Bytes) : Except Undelivered Connection :=
  if c.inboxEnded then .error .closed
  else
    match c.reader with
    | .ended => .error .unread
    | _ => .ok { c with inbox := c.inbox ++ bytes }

def closeInput (c : Connection) : Connection :=
  { c with inboxEnded := true }

/-- The server takes no more bytes. -/
def closeOutput (c : Connection) (failure : StreamError) : Connection :=
  { c with target := c.target.close failure }

def drain (c : Connection) (n : Nat) : Connection :=
  { c with target := c.target.drain n }

def advance (c : Connection) (ms : Nat) : Connection :=
  { c with now := c.now + ms }

def canStep (c : Connection) : Bool :=
  c.readerStep.isSome || c.callStep.isSome || c.writerStep.isSome

/-- A bound on the steps that are left: a message takes bytes off the inbox and may call for a reply, a command is
written in two steps, and a call has a handful of stages. -/
def stepBound (c : Connection) : Nat :=
  4 * c.inbox.length + 2 * c.channel.accepted.length + 17

/-- One turn of each actor, if one of them can go on. -/
def round? (fuel : Nat) (c : Connection) : Option Connection :=
  if c.canStep then some (exhaust writerStep fuel (exhaust callStep fuel (exhaust readerStep fuel c)))
  else none

/-- Runs until every actor can only wait. -/
def run (c : Connection) : Connection :=
  exhaust (round? c.stepBound) c.stepBound c

/-- One turn of each actor, the owner's last, unless the call is over. -/
def callRound? (fuel : Nat) (c : Connection) : Option Connection :=
  if c.call.isSome && c.canStep then
    some (exhaust callStep fuel (exhaust writerStep fuel (exhaust readerStep fuel c)))
  else none

/-- Runs until the call is over or every actor can only wait. What the owner sends last stays queued. -/
def runCall (c : Connection) : Connection :=
  exhaust (callRound? c.stepBound) c.stepBound c

/-- How long the call still waits for its answer at most. -/
def timer? (c : Connection) : Option Nat :=
  match c.call with
  | some ⟨_, .waiting _ (some deadline), _⟩ => some (deadline - c.now)
  | _ => none

end Connection

end LspClient
