import LspClient.Failure
import LspClient.Frame
import LspClient.Message
import LspClient.Trace.Entry

/-!
# Connections

A connection joins three actors. The reader takes messages off the incoming stream and routes them, the
writer owns the outgoing stream, and the owner makes calls, one at a time. They share the table of
requests that wait for an answer and a bounded channel of commands for the writer. What happened is kept in
logs that only grow: the commands accepted, the lines traced, and what each call returned.
-/

namespace LspClient

inductive Command where
  | send (frame : Json)
  | shutdown

/-- The commands accepted so far, and how many of them the writer has taken. -/
structure Channel where
  accepted : List Command := []
  taken : Nat := 0

namespace Channel

def capacity : Nat := 64

def isFull (c : Channel) : Bool :=
  capacity ≤ c.accepted.length - c.taken

def next? (c : Channel) : Option Command :=
  c.accepted[c.taken]?

def push (c : Channel) (command : Command) : Channel :=
  { c with accepted := c.accepted ++ [command] }

def take (c : Channel) : Channel :=
  { c with taken := c.taken + 1 }

end Channel

inductive CallError where
  /-- One of the streams had failed before. -/
  | closed (server : String)
  | timedOut (method : String) (milliseconds : Nat)
  /-- A stream failed while the call waited. -/
  | hungUp (server method : String)
  | refused (method message : String) (code : Option Int)
deriving DecidableEq, Repr

def CallError.message : CallError → String
  | .closed server => "connection to '" ++ server ++ "' is closed"
  | .timedOut method ms => "'" ++ method ++ "' timed out after " ++ Decimal.render ms ++ "ms"
  | .hungUp server method =>
    "'" ++ server ++ "' closed the connection before answering '" ++ method ++ "'"
  | .refused method message code =>
    let shown := match code with
      | some n => "Some(" ++ Decimal.renderInt n ++ ")"
      | none => "None"
    "'" ++ method ++ "' failed: " ++ message ++ " (code: " ++ shown ++ ")"

/-- What a call is for. Times are in milliseconds. -/
inductive Goal where
  | request (method : String) (params : Option Json) (timeout : Option Nat)
  | notify (method : String) (params : Option Json)
  | handshake (params : Json)
  | shutdown (timeout : Nat)

inductive Answer where
  | value (v : Json)
  | done

inductive Slot where
  | empty
  | answered (body : Json)
  /-- The waiter was given up with its stream. -/
  | lost

inductive Stage where
  /-- The request's frame waits for room in the channel. -/
  | sending (id : Nat)
  /-- The request waits for its answer, until the deadline if it has one. -/
  | waiting (id : Nat) (deadline : Option Nat)
  /-- The time of the request is over, but it is still registered. -/
  | expired (id limit : Nat)
  /-- A notification waits for room; `settled` is the outcome of the request before it. -/
  | notifying (settled : Except CallError Answer)
  /-- The command that ends the writer waits for room. -/
  | closing (settled : Except CallError Answer)
  /-- The writer has to end. -/
  | joining (settled : Except CallError Answer)

structure Call where
  goal : Goal
  stage : Stage
  slot : Slot := .empty

namespace Call

/-- The id of the request that a call has made, as long as that is not settled. -/
def requestId? (call : Call) : Option Nat :=
  match call.stage with
  | .sending id => some id
  | .waiting id _ => some id
  | .expired id _ => some id
  | _ => none

/-- Hands something to a call if its request is one of these. -/
def hand (ids : List Nat) (slot : Slot) (call : Call) : Call :=
  { call with
    slot := match call.requestId? with
      | some id => if id ∈ ids then slot else call.slot
      | none => call.slot }

end Call

inductive ReaderState where
  | reading
  /-- A reply to the server waits for room in the channel. -/
  | replying (reply : Json)
  | ended

inductive WriterState where
  | writing
  /-- A frame is under way; these bytes of it have not passed yet. -/
  | sending (rest : Bytes)
  | stopped
deriving DecidableEq, Repr

/-- What a call returned, and the id of its request if it made one. -/
structure Returned where
  goal : Goal
  id : Option Nat
  result : Except Failure Answer

structure Connection where
  name : String
  level : TraceLevel := TraceLevel.default
  /-- The time of day as trace entries show it. -/
  clock : String := "00:00:00"
  now : Nat := 0
  nextId : Nat := 1
  /-- The ids of requests that wait for an answer; `none` once a stream has failed. -/
  pending : Option (List Nat) := some []
  channel : Channel := {}
  reader : ReaderState := .reading
  writer : WriterState := .writing
  /-- Bytes from the server that the reader has not taken yet. -/
  inbox : Bytes := []
  inboxEnded : Bool := false
  target : Target := {}
  call : Option Call := none
  /-- Whether a shutdown has used up the connection. -/
  usedUp : Bool := false
  trace : List String := []
  returned : List Returned := []

namespace Connection

def addLine (c : Connection) (line : String) : Connection :=
  { c with trace := c.trace ++ [line] }

def addEntry (c : Connection) (direction : Trace.Direction) (message : Json) : Connection :=
  { c with trace := c.trace ++ (Trace.entry c.clock direction message c.level).toList }

def requestId? (c : Connection) : Option Nat :=
  c.call.bind Call.requestId?

/-- Closes the table of waiting requests: whoever waits has lost its answer. -/
def closePending (c : Connection) : Connection :=
  { c with pending := none, call := c.call.map (Call.hand (c.pending.getD []) .lost) }

def forget (c : Connection) (id : Nat) : Connection :=
  { c with pending := c.pending.map fun ids => ids.filter (· ≠ id) }

/-- Hands the body of a response to the request that waits for it, if one does. -/
def deliver (c : Connection) (id : Nat) (body : Json) : Connection :=
  { c.forget id with
    call := c.call.map (Call.hand ((c.pending.getD []).filter (· = id)) (.answered body)) }

/-- Whether the channel still takes commands, now or later. -/
def accepts (c : Connection) : Bool :=
  c.writer ≠ .stopped

def mustWait (c : Connection) : Bool :=
  c.accepts && c.channel.isFull

def offer (c : Connection) (command : Command) : Channel :=
  if c.accepts && !c.channel.isFull then c.channel.push command else c.channel

end Connection

end LspClient
