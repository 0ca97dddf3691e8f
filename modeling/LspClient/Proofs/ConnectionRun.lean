import LspClient.Connection.Run

/-!
# Runs of a connection

A run is any row of events: the owner starts or drops a call, the server sends, reads on or closes, time passes, or
one of the three actors makes one step. Nothing is assumed about their order, so a run may let an actor rest for as long
as it likes. An event that cannot happen changes nothing.
-/

namespace LspClient.Connection

inductive Event where
  | start (goal : Goal)
  | cancel
  | receive (bytes : Bytes)
  | closeInput
  | closeOutput (failure : StreamError)
  | drain (bytes : Nat)
  | advance (ms : Nat)
  | reader
  | writer
  | call

/-- The connection after an event, if the event can happen. -/
def next? (c : Connection) : Event → Option Connection
  | .start goal => (c.start goal).toOption
  | .cancel => some c.cancel
  | .receive bytes => (c.receive bytes).toOption
  | .closeInput => some c.closeInput
  | .closeOutput failure => some (c.closeOutput failure)
  | .drain n => some (c.drain n)
  | .advance ms => some (c.advance ms)
  | .reader => c.readerStep
  | .writer => c.writerStep
  | .call => c.callStep

def react (c : Connection) (e : Event) : Connection :=
  (c.next? e).getD c

/-- The connection after a run. -/
def follow (c : Connection) (events : List Event) : Connection :=
  events.foldl react c

/-- A connection as it is made. -/
def opened (name : String) (level : TraceLevel) (clock : String) (target : Target) : Connection :=
  { name := name, level := level, clock := clock, target := target }

@[simp] theorem follow_nil (c : Connection) : c.follow [] = c := rfl

@[simp] theorem follow_cons (c : Connection) (e : Event) (events : List Event) :
    c.follow (e :: events) = (c.react e).follow events := rfl

theorem follow_append (c : Connection) (xs ys : List Event) :
    c.follow (xs ++ ys) = (c.follow xs).follow ys :=
  List.foldl_append

/-- What every event of a run keeps holds after the run. -/
theorem follow_keeps {P : Connection → Prop} {events : List Event}
    (step : ∀ e ∈ events, ∀ c, P c → P (c.react e)) {c : Connection} (h : P c) : P (c.follow events) := by
  induction events generalizing c with
  | nil => exact h
  | cons e events ih =>
    exact ih (fun e he => step e (List.mem_cons_of_mem _ he)) (step e List.mem_cons_self c h)

end LspClient.Connection
