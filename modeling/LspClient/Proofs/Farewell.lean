import LspClient.Proofs.Producers

/-!
# The course of a shutdown

A shutdown makes a request, says `exit` when the request is settled, ends the writer and returns when the writer has
ended. `Leaving` says how far it has come after a run, with the results of its request, the commands that it queued and
how its attempts to say `exit` went. The clock is part of this, since the request is given up when its time is over.
-/

namespace LspClient.Connection

/-! ## The clock -/

/-- The time that passes with an event. -/
def Event.lapse : Event → Nat
  | .advance ms => ms
  | _ => 0

theorem Step.now_eq {c c' : Connection} {e : Event} (h : Step c e c') : c'.now = c.now + e.lapse := by
  cases h <;> rfl

theorem react_now (c : Connection) (e : Event) : (c.react e).now = c.now + e.lapse := by
  rcases react_cases c e with ⟨hnone, hstays⟩ | hstep
  · rw [hstays]
    cases e with
    | advance ms => cases hnone
    | _ => rfl
  · exact hstep.now_eq

theorem le_react_now (c : Connection) (e : Event) : c.now ≤ (c.react e).now := by
  rw [react_now]
  exact Nat.le_add_right _ _

theorem le_follow_now (events : List Event) (c : Connection) : c.now ≤ (c.follow events).now :=
  follow_keeps (P := (c.now ≤ ·.now)) (fun e _ r h => Nat.le_trans h (le_react_now r e)) (Nat.le_refl _)

/-! ## The steps of a shutdown -/

/-- How an attempt to say `exit` ends. -/
inductive Farewell where
  | queued
  | refused
deriving DecidableEq, Repr

namespace Farewell

def outcome (name : String) : Farewell → Except CallError Answer
  | .queued => .ok .done
  | .refused => .error (.closed name)

def commands : Farewell → List Command
  | .queued => [.send (Message.notification "exit" none)]
  | .refused => []

end Farewell

/-- How the attempt to say `exit` ends at an event, if it does. -/
def farewell? (c : Connection) : Event → Option Farewell
  | .call =>
    match c.call with
    | some ⟨.shutdown _, .notifying _, _⟩ =>
      if !c.accepts then some .refused else if c.channel.isFull then none else some .queued
    | _ => none
  | _ => none

def farewells (c : Connection) : List Event → List Farewell
  | [] => []
  | e :: events => (c.farewell? e).toList ++ (c.react e).farewells events

/-- The owner has made a shutdown. -/
structure Owner.Gone (o : Owner) : Prop where
  call : o.call = none
  usedUp : o.usedUp = true

/-- The owner is at a shutdown or has made one. -/
inductive Owner.Departs (o : Owner) : Prop where
  | going {timeout : Nat} {stage : Stage} (hcall : o.call = some (.shutdown timeout, stage))
  | gone (h : o.Gone)

section Departs
variable {c : Connection} (h : c.owner.Departs) (goal : Goal)
include h

/-- A shutdown lets no other call begin. -/
theorem Owner.Departs.start_refused : ∃ refusal, c.start goal = .error refusal := by
  cases h with
  | going hcall =>
    obtain ⟨slot, hc⟩ := call_of_owner hcall
    exact ⟨.busy, by simp [start, hc]⟩
  | gone h =>
    have hused : c.usedUp = true := h.usedUp
    exact ⟨.gone, by simp [start, (call_eq_none_iff c).1 h.call, hused]⟩

theorem Owner.Departs.next?_start : c.next? (.start goal) = none := by
  obtain ⟨refusal, hrefused⟩ := h.start_refused goal
  rw [next?, hrefused]
  rfl

theorem Owner.Departs.react_start : c.react (.start goal) = c := by
  rw [react, h.next?_start goal, Option.getD_none]

end Departs

theorem react_gone {c : Connection} (h : c.owner.Gone) (e : Event) : (c.react e).owner.Gone := by
  have hcall := (call_eq_none_iff c).1 h.call
  have hused : c.usedUp = true := h.usedUp
  cases e with
  | start goal =>
    rw [Owner.Departs.react_start (.gone h)]
    exact h
  | cancel => exact ⟨owner_cancel_call c, by simp [Connection.react, next?, cancel, hcall, owner, hused]⟩
  | call =>
    rw [react_call_of_none hcall]
    exact h
  | _ =>
    rw [react_owner rfl]
    exact h

theorem follow_gone {c : Connection} (h : c.owner.Gone) (events : List Event) : (c.follow events).owner.Gone :=
  follow_keeps (P := (·.owner.Gone)) (fun e _ _ h => react_gone h e) h

section Turn
variable {c : Connection} {timeout : Nat} {slot : Slot} {stage : Stage} {notes : List Note} {queued : List Command}
  {o : Owner}

theorem Held.farewell?_eq_none (h : Held c (.shutdown timeout) slot stage)
    (hc : c.call = some ⟨.shutdown timeout, stage, slot⟩) : c.farewell? .call = none := by
  simp only [farewell?, hc]
  cases h with
  | full hoffer haccepts hfull =>
    cases stage with
    | notifying r => simp [haccepts, hfull]
    | _ => rfl
  | _ => rfl

/-- A step of a shutdown leaves the owner at it or done with it. -/
theorem CallTurn.departs (h : CallTurn c (.shutdown timeout) slot stage notes queued o)
    (hcall : c.owner.call = some (.shutdown timeout, stage)) : o.Departs := by
  cases h with
  | waits => exact .going hcall
  | returns => exact .gone ⟨rfl, rfl⟩
  | _ => exact .going rfl

/-- An attempt to say `exit` queues it just if the writer takes commands. -/
theorem CallTurn.said (h : CallTurn c (.shutdown timeout) slot stage notes queued o)
    (hc : c.call = some ⟨.shutdown timeout, stage, slot⟩) {f : Farewell} (hf : c.farewell? .call = some f) :
    (f = .queued ↔ c.accepts = true) ∧ queued = f.commands := by
  cases h with
  | waits _ hheld =>
    rw [hheld.farewell?_eq_none hc] at hf
    cases hf
  | notifies r haccepts hroom =>
    simp only [farewell?, hc, haccepts, hroom] at hf
    cases hf
    exact ⟨iff_of_true rfl haccepts, rfl⟩
  | unheard r haccepts =>
    simp only [farewell?, hc, haccepts] at hf
    cases hf
    exact ⟨by simp [haccepts], rfl⟩
  | _ =>
    simp only [farewell?, hc] at hf
    cases hf

end Turn

/-! ## How far a shutdown has come -/

def Note.resultOf? (id : Nat) : Note → Option (Except CallError Answer)
  | .settled id' r => if id' = id then some r else none
  | _ => none

/-- The results of a request. -/
def resultsOf (id : Nat) (notes : List Note) : List (Except CallError Answer) :=
  notes.filterMap (Note.resultOf? id)

theorem resultsOf_append (id : Nat) (xs ys : List Note) :
    resultsOf id (xs ++ ys) = resultsOf id xs ++ resultsOf id ys :=
  List.filterMap_append

@[simp] theorem resultsOf_settled (id : Nat) (r : Except CallError Answer) : resultsOf id [.settled id r] = [r] := by
  simp [resultsOf, Note.resultOf?]

theorem mem_resultsOf {id : Nat} {r : Except CallError Answer} {notes : List Note} :
    r ∈ resultsOf id notes ↔ .settled id r ∈ notes := by
  constructor
  · intro h
    obtain ⟨note, hnote, hr⟩ := List.mem_filterMap.mp h
    cases note with
    | settled id' r' =>
      simp only [Note.resultOf?] at hr
      split at hr
      · rename_i hid
        cases hid
        cases hr
        exact hnote
      · cases hr
    | _ => cases hr
  · intro h
    exact List.mem_filterMap.mpr ⟨_, h, by simp [Note.resultOf?]⟩

theorem resultsOf_foreign {e : Event} (h : e.isForeign = true) (c : Connection) (id : Nat) :
    resultsOf id (c.observe e) = [] := by
  have hnotes : resultsOf id (c.notes e) = [] := by
    cases e with
    | start goal => cases h
    | cancel => cases h
    | call => cases h
    | reader =>
      simp only [notes]
      split <;> rfl
    | writer =>
      simp only [notes]
      split
      · split <;> rfl
      · rfl
    | _ => rfl
  unfold observe seen
  split
  · exact hnotes
  · rfl

theorem farewell?_of_ne {e : Event} (h : e ≠ .call) (c : Connection) : c.farewell? e = none := by
  cases e with
  | call => exact absurd rfl h
  | _ => rfl

/-- A shutdown as it begins: when, for how long, under which id, on what. `shut` says that the table of waiting requests
was closed then. -/
structure Departure where
  name : String
  timeout : Nat
  id : Nat
  since : Nat
  shut : Prop
  returned : List Returned

namespace Departure

def goal (d : Departure) : Goal := .shutdown d.timeout

def request (d : Departure) : Command := .send (Goal.frame d.id d.goal)

end Departure

/-- Some results of the request have a reason: its time was over, or there was nobody to send it to. -/
structure Reason (d : Departure) (now : Nat) (silent : Prop) (r : Except CallError Answer) : Prop where
  late : ∀ method limit, r = .error (.timedOut method limit) → d.since + d.timeout ≤ now
  closed : ∀ server, r = .error (.closed server) → silent ∨ d.shut

theorem Reason.mono {d : Departure} {now now' : Nat} {silent silent' : Prop} {r : Except CallError Answer}
    (h : Reason d now silent r) (hnow : now ≤ now') (hsilent : silent → silent' ∨ d.shut) :
    Reason d now' silent' r where
  late method limit hr := Nat.le_trans (h.late method limit hr) hnow
  closed server hr := (h.closed server hr).elim hsilent .inr

/-- What a shutdown has behind it at a stage: the results of its request, the commands that it queued and how its
attempts to say `exit` went. -/
inductive Reached (d : Departure) (accepts : Bool) (now : Nat) :
    Stage → List (Except CallError Answer) → List Command → List Farewell → Prop where
  | asking : Reached d accepts now (.sending d.id) [] [] []
  | waiting {t : Nat} (ht : d.since + d.timeout ≤ t) :
      Reached d accepts now (.waiting d.id (some t)) [] [d.request] []
  | expired {limit : Nat} (hlate : d.since + d.timeout ≤ now) :
      Reached d accepts now (.expired d.id limit) [] [d.request] []
  | notifying {r : Except CallError Answer} {asked : List Command} (hasked : asked = [] ∨ asked = [d.request])
      (hr : Reason d now (accepts = false) r) : Reached d accepts now (.notifying r) [r] asked []
  | closing {r : Except CallError Answer} {asked : List Command} {f : Farewell}
      (hasked : asked = [] ∨ asked = [d.request]) (hr : Reason d now (f = .refused) r) :
      Reached d accepts now (.closing (shutdownResult r (f.outcome d.name))) [r] (asked ++ f.commands) [f]
  | joining {r : Except CallError Answer} {asked closed : List Command} {f : Farewell}
      (hasked : asked = [] ∨ asked = [d.request]) (hclosed : closed = [] ∨ closed = [.shutdown])
      (hr : Reason d now (f = .refused) r) :
      Reached d accepts now (.joining (shutdownResult r (f.outcome d.name))) [r] (asked ++ f.commands ++ closed) [f]

/-- How far a shutdown has come. -/
inductive Leaving (d : Departure) (accepts : Bool) (now : Nat) (o : Owner) (rs : List (Except CallError Answer))
    (commands : List Command) (fs : List Farewell) : Prop where
  | going {stage : Stage} (hcall : o.call = some (d.goal, stage)) (hreturned : o.returned = d.returned)
      (hreached : Reached d accepts now stage rs commands fs)
  | left {result : Except CallError Answer} (hcall : o.call = none) (hused : o.usedUp = true)
      (haccepts : accepts = false)
      (hreturned : o.returned = d.returned ++ [⟨d.goal, none, result.mapError (Goal.failure d.goal)⟩])
      (hreached : Reached d accepts now (.joining result) rs commands fs)

section Leaving
variable {d : Departure} {c : Connection} {rs : List (Except CallError Answer)} {commands : List Command}
  {fs : List Farewell}

/-- Others than the owner may stop the writer and let time pass. -/
theorem Reached.mono {accepts accepts' : Bool} {now now' : Nat} {stage : Stage}
    (h : Reached d accepts now stage rs commands fs) (haccepts : accepts = false → accepts' = false)
    (hnow : now ≤ now') : Reached d accepts' now' stage rs commands fs := by
  cases h with
  | asking => exact .asking
  | waiting ht => exact .waiting ht
  | expired hlate => exact .expired (Nat.le_trans hlate hnow)
  | notifying hasked hr => exact .notifying hasked (hr.mono hnow fun ha => .inl (haccepts ha))
  | closing hasked hr => exact .closing hasked (hr.mono hnow .inl)
  | joining hasked hclosed hr => exact .joining hasked hclosed (hr.mono hnow .inl)

theorem Leaving.mono {accepts accepts' : Bool} {now now' : Nat} {o : Owner} (h : Leaving d accepts now o rs commands fs)
    (haccepts : accepts = false → accepts' = false) (hnow : now ≤ now') : Leaving d accepts' now' o rs commands fs := by
  cases h with
  | going hcall hreturned hreached => exact .going hcall hreturned (hreached.mono haccepts hnow)
  | left hcall hused hstopped hreturned hreached =>
    exact .left hcall hused (haccepts hstopped) hreturned (hreached.mono haccepts hnow)

theorem Leaving.departs {accepts : Bool} {now : Nat} {o : Owner} (h : Leaving d accepts now o rs commands fs) :
    o.Departs := by
  cases h with
  | going hcall => exact .going hcall
  | left hcall hused => exact .gone ⟨hcall, hused⟩

theorem settle_eq_error {method : String} {body : Json} {e : CallError} (h : settle method body = .error e) :
    ∃ error, e = refusal method error := by
  unfold settle at h
  split at h
  · cases h
    exact ⟨_, rfl⟩
  · cases h

/-- The shutdown takes one of its steps. -/
theorem Reached.turn {stage : Stage} (h : Reached d c.accepts c.now stage rs commands fs) {slot : Slot}
    (hc : c.call = some ⟨d.goal, stage, slot⟩) (hreturned : c.owner.returned = d.returned) (hname : c.name = d.name)
    (hsince : d.since ≤ c.now) {notes : List Note} {queued : List Command} {o : Owner}
    (hturn : CallTurn c d.goal slot stage notes queued o) :
    Leaving d c.accepts c.now o (rs ++ resultsOf d.id notes) (commands ++ queued)
      (fs ++ (c.farewell? .call).toList) := by
  have hquiet : ∀ {stage' : Stage} {rs' : List (Except CallError Answer)} {commands' : List Command},
      c.farewell? .call = none → o.call = some (d.goal, stage') → o.returned = c.owner.returned →
        Reached d c.accepts c.now stage' rs' commands' fs →
          Leaving d c.accepts c.now o rs' commands' (fs ++ (c.farewell? .call).toList) := by
    intro stage' rs' commands' hnone hcall hsame hreached
    rw [hnone, Option.toList_none, List.append_nil]
    exact .going hcall (hsame.trans hreturned) hreached
  have hstay : ∀ hheld : Held c d.goal slot stage, o = c.owner →
      Leaving d c.accepts c.now o (rs ++ resultsOf d.id []) (commands ++ []) (fs ++ (c.farewell? .call).toList) := by
    intro hheld ho
    simp only [resultsOf, List.filterMap_nil, List.append_nil]
    exact hquiet (hheld.farewell?_eq_none hc) (by rw [ho, owner, hc]; rfl) (by rw [ho]) h
  have hsilent : (∀ r, stage ≠ .notifying r) → c.farewell? .call = none := by
    intro hstage
    simp only [farewell?, hc, Departure.goal]
    split
    · rename_i heq
      cases heq
      exact absurd rfl (hstage _)
    · rfl
  cases h with
  | asking =>
    have hsilent := hsilent (by simp)
    cases hturn with
    | waits _ hheld => exact hstay hheld rfl
    | sends => exact hquiet hsilent rfl rfl (.waiting (Nat.add_le_add_right hsince _))
    | refused _ haccepts =>
      rw [resultsOf_settled]
      exact hquiet hsilent rfl rfl (.notifying (.inl rfl) ⟨by simp, fun _ _ => .inl haccepts⟩)
  | waiting ht =>
    have hsilent := hsilent (by simp)
    cases hturn with
    | waits _ hheld => exact hstay hheld rfl
    | answered _ _ body hslot =>
      rw [resultsOf_settled]
      refine hquiet hsilent rfl rfl (.notifying (.inr rfl) ⟨fun method limit he => ?_, fun server he => ?_⟩)
      · obtain ⟨error, herror⟩ := settle_eq_error he
        cases herror
      · obtain ⟨error, herror⟩ := settle_eq_error he
        cases herror
    | hungUp =>
      rw [resultsOf_settled]
      exact hquiet hsilent rfl rfl (.notifying (.inr rfl) ⟨by simp, by simp⟩)
    | expires _ t limit hlate =>
      rw [List.append_nil]
      exact hquiet hsilent rfl rfl (.expired (Nat.le_trans ht hlate))
  | expired hlate =>
    have hsilent := hsilent (by simp)
    cases hturn with
    | waits _ hheld => exact hstay hheld rfl
    | timedOut =>
      rw [resultsOf_settled]
      exact hquiet hsilent rfl rfl (.notifying (.inr rfl) ⟨fun _ _ _ => hlate, by simp⟩)
  | notifying hasked hr =>
    cases hturn with
    | waits _ hheld => exact hstay hheld rfl
    | notifies _ haccepts hroom =>
      have hsaid : c.farewell? .call = some .queued := by simp [farewell?, hc, Departure.goal, haccepts, hroom]
      rw [hsaid]
      refine .going rfl hreturned (.closing (f := .queued) hasked (hr.mono (Nat.le_refl _) fun ha => ?_))
      rw [haccepts] at ha
      cases ha
    | unheard _ haccepts =>
      have hsaid : c.farewell? .call = some .refused := by simp [farewell?, hc, Departure.goal, haccepts]
      rw [hsaid, hname]
      exact .going rfl hreturned (.closing (f := .refused) hasked (hr.mono (Nat.le_refl _) fun _ => .inl rfl))
  | closing hasked hr =>
    have hsilent := hsilent (by simp)
    cases hturn with
    | waits _ hheld => exact hstay hheld rfl
    | closes => exact hquiet hsilent rfl rfl (.joining hasked (.inr rfl) hr)
    | unclosed => exact hquiet hsilent rfl rfl (.joining hasked (.inl rfl) hr)
  | joining hasked hclosed hr =>
    cases hturn with
    | waits _ hheld => exact hstay hheld rfl
    | returns _ haccepts =>
      rw [hsilent (by simp), Option.toList_none, List.append_nil, List.append_nil]
      exact .left rfl rfl haccepts (congrArg (· ++ _) hreturned) (.joining hasked hclosed hr)

theorem Leaving.call (h : Leaving d c.accepts c.now c.owner rs commands fs) (hname : c.name = d.name)
    (hsince : d.since ≤ c.now) :
    Leaving d c.accepts c.now (c.react .call).owner (rs ++ resultsOf d.id (c.observe .call))
      (commands ++ c.queued .call) (fs ++ (c.farewell? .call).toList) := by
  cases h with
  | going hcall hreturned hreached =>
    obtain ⟨slot, hc⟩ := call_of_owner hcall
    exact hreached.turn hc hreturned hname hsince (call_turn hc)
  | left hcall hused haccepts hreturned hreached =>
    have hnone := (call_eq_none_iff c).1 hcall
    have hwaits : c.next? .call = none := by simp [next?, callStep, hnone]
    rw [react_call_of_none hnone, queued_call_of_none hnone, observe, seen_of_none hwaits]
    simpa [farewell?, hnone, resultsOf] using Leaving.left hcall hused haccepts hreturned hreached

theorem Leaving.step (h : Leaving d c.accepts c.now c.owner rs commands fs) (hname : c.name = d.name)
    (hsince : d.since ≤ c.now) {e : Event} (he : e ≠ .cancel) :
    Leaving d (c.react e).accepts (c.react e).now (c.react e).owner (rs ++ resultsOf d.id (c.observe e))
      (commands ++ if e.sender = .owner then c.queued e else []) (fs ++ (c.farewell? e).toList) := by
  have hlater : ∀ {o : Owner} {rs' : List (Except CallError Answer)} {commands' : List Command} {fs' : List Farewell},
      Leaving d c.accepts c.now o rs' commands' fs' →
        Leaving d (c.react e).accepts (c.react e).now o rs' commands' fs' :=
    fun h => h.mono (fun ha => react_stopped ha e) (le_react_now c e)
  have hforeign : e.isForeign = true → e ≠ .call →
      Leaving d (c.react e).accepts (c.react e).now (c.react e).owner (rs ++ resultsOf d.id (c.observe e))
        (commands ++ if e.sender = .owner then c.queued e else []) (fs ++ (c.farewell? e).toList) := by
    intro hforeign hne
    rw [react_owner hforeign, resultsOf_foreign hforeign, owner_silent hforeign, farewell?_of_ne hne]
    simpa using hlater h
  cases e with
  | start goal =>
    have hrefused := h.departs.next?_start goal
    rw [h.departs.react_start goal, observe, queued, seen_of_none hrefused, seen_of_none hrefused,
      farewell?_of_ne (by simp)]
    simpa [resultsOf] using h
  | cancel => exact absurd rfl he
  | call => exact hlater (h.call hname hsince)
  | _ => exact hforeign rfl (by simp)

theorem Leaving.follow {events : List Event} (hheld : .cancel ∉ events)
    (h : Leaving d c.accepts c.now c.owner rs commands fs) (hname : c.name = d.name) (hsince : d.since ≤ c.now) :
    Leaving d (c.follow events).accepts (c.follow events).now (c.follow events).owner
      (rs ++ resultsOf d.id (c.history events)) (commands ++ commandsOf .owner (c.queuings events))
      (fs ++ c.farewells events) := by
  induction events generalizing c rs commands fs with
  | nil => simpa [history, queuings, farewells, resultsOf, commandsOf] using h
  | cons e events ih =>
    have he : e ≠ .cancel := fun heq => hheld (heq ▸ List.mem_cons_self)
    have hname' : (c.react e).name = d.name := (react_change c e).name_eq.trans hname
    rw [history, queuings, farewells, resultsOf_append, commandsOf_append, commandsOf_map, ← List.append_assoc,
      ← List.append_assoc, ← List.append_assoc]
    exact ih (fun hmem => hheld (List.mem_cons_of_mem e hmem)) (h.step hname hsince he) hname'
      (Nat.le_trans hsince (le_react_now c e))

end Leaving

/-- The shutdown that begins now. -/
def departure (c : Connection) (timeout : Nat) : Departure :=
  ⟨c.name, timeout, c.nextId, c.now, c.pending = none, c.returned⟩

section Departing
variable {c : Connection} (timeout : Nat) (hcall : c.call = none) (hused : c.usedUp = false)
include hcall hused

theorem next?_start : c.next? (.start (.shutdown timeout)) = some (c.beginRequest (.shutdown timeout)) := by
  rw [next?, start_request rfl hcall hused]
  rfl

theorem leaving_start :
    Leaving (c.departure timeout) (c.react (.start (.shutdown timeout))).accepts
      (c.react (.start (.shutdown timeout))).now (c.react (.start (.shutdown timeout))).owner
      (resultsOf c.nextId (c.observe (.start (.shutdown timeout)))) [] [] := by
  have hnext := next?_start timeout hcall hused
  rw [observe, (step_of_next? hnext).seen_eq, react, hnext, Option.getD_some, owner_beginRequest]
  cases hp : c.pending with
  | some ids =>
    have hnotes : c.notes (.start (.shutdown timeout)) = [.issued c.nextId (.shutdown timeout)] := by
      simp [notes, hp, Goal.makesRequest]
    rw [hnotes]
    exact .going rfl rfl .asking
  | none =>
    -- The table is closed, so there is no request to wait for.
    have hnotes : resultsOf c.nextId (c.notes (.start (.shutdown timeout))) = [.error (.closed c.name)] := by
      simp [notes, hp, Goal.makesRequest, resultsOf, List.filterMap_cons, Note.resultOf?]
    simp only [Option.isSome_none, Bool.false_eq_true, if_false]
    rw [hnotes]
    exact .going rfl rfl (.notifying (.inl rfl) ⟨by simp, fun _ _ => .inr hp⟩)

/-- How far a shutdown has come after any run in which it is not dropped. -/
theorem leaving_follow {during : List Event} (hheld : .cancel ∉ during) :
    Leaving (c.departure timeout) (c.follow (.start (.shutdown timeout) :: during)).accepts
      (c.follow (.start (.shutdown timeout) :: during)).now (c.follow (.start (.shutdown timeout) :: during)).owner
      (resultsOf c.nextId (c.history (.start (.shutdown timeout) :: during)))
      (commandsOf .owner (c.queuings (.start (.shutdown timeout) :: during)))
      (c.farewells (.start (.shutdown timeout) :: during)) := by
  have hrun := (leaving_start timeout hcall hused).follow hheld
    (react_change c _).name_eq (le_react_now c _)
  rw [history, resultsOf_append, queuings, queued_of_toSend rfl]
  exact hrun

end Departing

end LspClient.Connection
