import LspClient.Client
import LspClient.Proofs.ConnectionRun

/-!
# Servers in service

A client that has launched a server introduces itself once and says goodbye once. In between, and while it waits,
reader, writer, server and clock do as they like. A run is any row of such events; one that cannot happen changes
nothing. The client looks at its call after every event, so its standing follows from how the call ended.

Whatever a client does with its server is such a run.
-/

namespace LspClient

inductive Standing where
  | launched
  | starting
  | running
  | stopping
  /-- The start has failed, the stop is over, or one of them was given up. -/
  | gone
deriving DecidableEq, Repr

def Connection.Event.isChoice : Connection.Event → Bool
  | .start _ => true
  | .cancel => true
  | _ => false

/-- A server as the client that launched it sees it. -/
structure Service where
  standing : Standing
  connection : Connection

namespace Service

inductive Event where
  | introduce (params : Json)
  | stop
  /-- Nobody waits for the start or the stop any more. -/
  | giveUp
  | meanwhile (e : Connection.Event)

def launch (c : Connection) : Service := ⟨.launched, c⟩

/-- A server that was just launched, with a fresh connection. -/
def fresh (name : String) (level : TraceLevel) (clock : String) (target : Target) : Service :=
  launch (Connection.opened name level clock target)

/-- What an event means for the connection, and the standing that it leads to unless the call is over then. -/
def turn? (s : Service) : Event → Option (Standing × Connection.Event)
  | .introduce params =>
    match s.standing with
    | .launched => some (.starting, .start (.handshake params))
    | _ => none
  | .stop =>
    match s.standing with
    | .running => some (.stopping, .start (.shutdown Client.grace))
    | _ => none
  | .giveUp =>
    match s.standing with
    | .starting => some (.gone, .cancel)
    | .stopping => some (.gone, .cancel)
    | _ => none
  | .meanwhile e => if e.isChoice then none else some (s.standing, e)

/-- Looks at the call: once it is over, so is the start or the stop. -/
def conclude (s : Service) : Service :=
  match s.standing, s.connection.call with
  | .starting, none =>
    match Client.outcome s.connection with
    | .done => { s with standing := .running }
    | _ => { s with standing := .gone }
  | .stopping, none => { s with standing := .gone }
  | _, _ => s

def step (s : Service) (e : Event) : Service :=
  match s.turn? e with
  | some (standing, e) => conclude ⟨standing, s.connection.react e⟩
  | none => s

def serve (s : Service) (events : List Event) : Service :=
  events.foldl step s

def connectionEvents (s : Service) : List Event → List Connection.Event
  | [] => []
  | e :: events => ((s.turn? e).map Prod.snd).toList ++ (s.step e).connectionEvents events

@[simp] theorem conclude_connection (s : Service) : s.conclude.connection = s.connection := by
  unfold conclude
  split
  · split <;> rfl
  · rfl
  · rfl

theorem step_connection (s : Service) (e : Event) :
    (s.step e).connection = s.connection.follow ((s.turn? e).map Prod.snd).toList := by
  unfold step
  cases s.turn? e with
  | none => rfl
  | some turn => exact conclude_connection _

theorem serve_append (s : Service) (xs ys : List Event) : s.serve (xs ++ ys) = (s.serve xs).serve ys :=
  List.foldl_append

theorem serve_concat (s : Service) (events : List Event) (e : Event) :
    s.serve (events ++ [e]) = (s.serve events).step e :=
  serve_append s events [e]

theorem connectionEvents_concat (s : Service) (events : List Event) (e : Event) :
    s.connectionEvents (events ++ [e]) =
      s.connectionEvents events ++ (((s.serve events).turn? e).map Prod.snd).toList := by
  induction events generalizing s with
  | nil => simp [connectionEvents, serve]
  | cons first events ih =>
    rw [List.cons_append, connectionEvents, ih, connectionEvents, List.append_assoc]
    rfl

theorem serve_connection (s : Service) (events : List Event) :
    (s.serve events).connection = s.connection.follow (s.connectionEvents events) := by
  induction events generalizing s with
  | nil => rfl
  | cons e events ih =>
    rw [connectionEvents, Connection.follow_append, ← step_connection]
    exact ih (s.step e)

theorem step_meanwhile (s : Service) {e : Connection.Event} (h : e.isChoice = false) :
    s.step (.meanwhile e) = conclude ⟨s.standing, s.connection.react e⟩ := by
  simp [step, turn?, h]

end Service

namespace Connection

/-- A connection comes from another without a choice of its owner. -/
def LeadsTo (c c' : Connection) : Prop :=
  ∃ events : List Event, (∀ e ∈ events, e.isChoice = false) ∧ c.follow events = c'

namespace LeadsTo

theorem refl (c : Connection) : LeadsTo c c :=
  ⟨[], by simp, rfl⟩

theorem trans {a b c : Connection} (hab : LeadsTo a b) (hbc : LeadsTo b c) : LeadsTo a c := by
  obtain ⟨xs, hxs, rfl⟩ := hab
  obtain ⟨ys, hys, rfl⟩ := hbc
  refine ⟨xs ++ ys, fun e he => ?_, follow_append a xs ys⟩
  rcases List.mem_append.1 he with he | he
  · exact hxs e he
  · exact hys e he

theorem react (c : Connection) {e : Event} (h : e.isChoice = false) : LeadsTo c (c.react e) :=
  ⟨[e], by simpa using h, rfl⟩

theorem of_next {c c' : Connection} {e : Event} (he : e.isChoice = false) (h : c.next? e = some c') :
    LeadsTo c c' := by
  have hreact : c.react e = c' := by rw [Connection.react, h, Option.getD_some]
  exact hreact ▸ react c he

/-- What every step leads to, all the steps lead to. -/
theorem exhaust {α : Type} (connection : α → Connection) {step : α → Option α}
    (h : ∀ a a', step a = some a' → LeadsTo (connection a) (connection a')) (fuel : Nat) (a : α) :
    LeadsTo (connection a) (connection (LspClient.exhaust step fuel a)) := by
  induction fuel generalizing a with
  | zero => exact refl _
  | succ fuel ih =>
    rw [LspClient.exhaust]
    split
    · rename_i a' hstep
      exact (h a a' hstep).trans (ih a')
    · exact refl _

/-- An actor goes on as long as it can. -/
theorem actor {e : Event} (he : e.isChoice = false) (fuel : Nat) (c : Connection) :
    LeadsTo c (LspClient.exhaust (·.next? e) fuel c) :=
  exhaust id (fun _ _ h => of_next he h) fuel c

theorem run (c : Connection) : LeadsTo c c.run := by
  refine exhaust id (fun c c' h => ?_) _ c
  unfold round? at h
  split at h
  · cases h
    exact ((actor (e := .reader) rfl _ c).trans (actor (e := .call) rfl _ _)).trans (actor (e := .writer) rfl _ _)
  · cases h

theorem runCall (c : Connection) : LeadsTo c c.runCall := by
  refine exhaust id (fun c c' h => ?_) _ c
  unfold callRound? at h
  split at h
  · cases h
    exact ((actor (e := .reader) rfl _ c).trans (actor (e := .writer) rfl _ _)).trans (actor (e := .call) rfl _ _)
  · cases h

end LeadsTo

end Connection

namespace Server
open Connection (LeadsTo)

/-- What a connection is told of a process, and when. -/
def news (r : Child.Reaction) (consumed received : Nat) : List Connection.Event :=
  [.advance 1, .drain (r.consumed - consumed), .receive (r.stdout.drop received)] ++
    ((if r.outputEnded then [.closeInput] else []) ++
      if r.refusesInput then [.closeOutput .brokenProcessPipe] else [])

theorem deliver_eq (c : Connection) (r : Child.Reaction) (consumed received : Nat) :
    deliver c r consumed received = c.follow (news r consumed received) := by
  let drained := (c.advance 1).drain (r.consumed - consumed)
  have hfirst : c.follow [.advance 1, .drain (r.consumed - consumed), .receive (r.stdout.drop received)] =
      drained.react (.receive (r.stdout.drop received)) := rfl
  rw [news, Connection.follow_append, hfirst, Connection.react, Connection.next?]
  unfold deliver
  dsimp only
  cases drained.receive (r.stdout.drop received) <;> cases r.outputEnded <;> cases r.refusesInput <;> rfl

theorem deliver_leadsTo (c : Connection) (r : Child.Reaction) (consumed received : Nat) :
    LeadsTo c (deliver c r consumed received) := by
  refine ⟨news r consumed received, ?_, (deliver_eq c r consumed received).symm⟩
  unfold news
  cases r.outputEnded <;> cases r.refusesInput <;> simp [Connection.Event.isChoice]

section Exchange
variable {run : Connection → Connection} (hrun : ∀ c, LeadsTo c (run c))
include hrun

theorem proceed_leadsTo (s : Server) (c : Connection) : LeadsTo c (s.proceed run c).connection :=
  hrun c

theorem exchange_leadsTo (s : Server) : LeadsTo s.connection (s.exchange run).connection :=
  (deliver_leadsTo s.connection _ _ _).trans (hrun _)

end Exchange

theorem rest_leadsTo (patience : Nat) (s : Server) : LeadsTo s.connection (s.rest patience).connection := by
  refine (proceed_leadsTo .run s s.connection).trans (LeadsTo.exhaust Server.connection (fun s s' h => ?_) patience _)
  split at h
  · cases h
  · cases h
    exact exchange_leadsTo .run s

theorem pass_leadsTo (s : Server) (ms : Nat) : LeadsTo s.connection (s.pass ms).connection :=
  (LeadsTo.react s.connection (e := .advance ms) rfl).trans (proceed_leadsTo .runCall _ _)

theorem turn_leadsTo (s : Server) : LeadsTo s.connection s.turn.connection := by
  unfold turn
  split
  · exact pass_leadsTo s s.nap
  · exact exchange_leadsTo .runCall s

theorem turn?_eq_some {limit : Nat} {s s' : Server} (h : s.turn? limit = some s') :
    s.connection.call ≠ none ∧ s.connection.now + s.span ≤ limit ∧ s' = s.turn := by
  unfold turn? at h
  split at h
  · cases h
  · rename_i hgoes
    cases h
    rw [Bool.or_eq_true, not_or, Option.isNone_iff_eq_none, decide_eq_true_eq, Nat.not_lt] at hgoes
    exact ⟨hgoes.1, hgoes.2, rfl⟩

theorem await_leadsTo (patience : Nat) (s : Server) : LeadsTo s.connection (s.await patience).connection :=
  LeadsTo.exhaust Server.connection
    (fun s _ h => (turn?_eq_some h).2.2 ▸ turn_leadsTo s) patience s

end Server

end LspClient
