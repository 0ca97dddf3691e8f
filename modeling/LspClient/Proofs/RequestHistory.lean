import LspClient.Proofs.ConnectionSteps

/-!
# The history of requests

What becomes of requests depends on a small part of a connection: the next id, the table of waiting requests, the
owner's call and what calls returned. `Change` lists all that one event can do to that part, with the notes that an
observer takes of it; `react_change` says that nothing else ever happens. What holds of every history is proved
from that list alone.

A note of a dispatched message holds the ids that were registered then. The frames in the channel and the lines
of the trace are not part of this view.
-/

namespace LspClient

namespace Call

theorem requestId?_of_sending {call : Call} {id : Nat} (h : call.stage = .sending id) : call.requestId? = some id := by
  simp only [requestId?, h]

theorem requestId?_of_waiting {call : Call} {id : Nat} {deadline : Option Nat} (h : call.stage = .waiting id deadline) :
    call.requestId? = some id := by
  simp only [requestId?, h]

theorem requestId?_of_expired {call : Call} {id limit : Nat} (h : call.stage = .expired id limit) :
    call.requestId? = some id := by
  simp only [requestId?, h]

@[simp] theorem hand_requestId? (ids : List Nat) (slot : Slot) (call : Call) :
    (call.hand ids slot).requestId? = call.requestId? := rfl

theorem hand_slot {call : Call} {id : Nat} (h : call.requestId? = some id) (ids : List Nat) (slot : Slot) :
    (call.hand ids slot).slot = if id ∈ ids then slot else call.slot := by
  simp only [hand, h]

@[simp] theorem hand_nil (slot : Slot) (call : Call) : call.hand [] slot = call := by
  unfold hand
  split <;> simp

theorem hand_congr {xs ys : List Nat} (h : ∀ id, id ∈ xs ↔ id ∈ ys) (slot : Slot) : hand xs slot = hand ys slot := by
  funext call
  simp only [hand, h]

end Call

namespace Connection

/-- The part of a connection that requests depend on. -/
structure Requests where
  name : String
  nextId : Nat
  pending : Option (List Nat)
  call : Option Call
  returned : List Returned

namespace Requests

/-- The id of the request that is in progress. -/
def requestId? (s : Requests) : Option Nat :=
  s.call.bind Call.requestId?

def forget (s : Requests) (id : Nat) : Requests :=
  { s with pending := s.pending.map fun ids => ids.filter (· ≠ id) }

theorem of_forget_pending {s : Requests} {id : Nat} {ids : List Nat} (h : (s.forget id).pending = some ids) :
    ∃ old, s.pending = some old ∧ ∀ i ∈ ids, i ∈ old ∧ i ≠ id := by
  obtain ⟨old, hold, rfl⟩ := Option.map_eq_some_iff.1 h
  refine ⟨old, hold, fun i hi => ?_⟩
  obtain ⟨hmem, hne⟩ := List.mem_filter.1 hi
  exact ⟨hmem, by simpa using hne⟩

/-- Hands something to the call if it waits for one of the ids. -/
def hand (s : Requests) (ids : List Nat) (slot : Slot) : Requests :=
  { s with call := s.call.map (Call.hand ids slot) }

/-- Nobody is handed anything that nobody has registered for. -/
theorem forget_hand_of_not_mem {s : Requests} {id : Nat} (h : ∀ ids, s.pending = some ids → id ∉ ids) (slot : Slot) :
    (s.forget id).hand ((s.pending.getD []).filter (· = id)) slot = s := by
  obtain ⟨name, nextId, pending, call, returned⟩ := s
  have hcall : call.map (Call.hand [] slot) = call := by
    cases call <;> simp
  cases pending with
  | none => simp [forget, hand, hcall]
  | some ids =>
    have hid : id ∉ ids := h ids rfl
    have hkept : ids.filter (· ≠ id) = ids :=
      List.filter_eq_self.mpr fun i hi => by simpa using fun heq : i = id => hid (heq ▸ hi)
    have hnone : ids.filter (· = id) = [] :=
      List.filter_eq_nil_iff.mpr fun i hi => by simpa using fun heq : i = id => hid (heq ▸ hi)
    simp only [forget, hand, Option.map_some, Option.getD_some, hkept, hnone, hcall]

end Requests

def requests (c : Connection) : Requests :=
  ⟨c.name, c.nextId, c.pending, c.call, c.returned⟩

inductive Note where
  /-- A call took this id for its request. -/
  | issued (id : Nat) (goal : Goal)
  /-- The frame of the request with this id was queued. -/
  | sent (id : Nat)
  /-- A message was dispatched while these ids were registered. -/
  | dispatched (message : Json) (registered : List Nat)
  /-- The time of the request with this id was over before it had an answer. -/
  | expired (id : Nat)
  /-- The request with this id came to its result. -/
  | settled (id : Nat) (result : Except CallError Answer)
  /-- The call that waited for this id was dropped. -/
  | dropped (id : Nat)
  /-- A stream failed. -/
  | closed

/-- The notes of an event that happens. -/
def notes (c : Connection) : Event → List Note
  | .start goal =>
    if goal.makesRequest then
      .issued c.nextId goal :: if c.pending.isNone then [.settled c.nextId (.error (.closed c.name))] else []
    else []
  | .cancel => (c.requestId?.map Note.dropped).toList
  | .reader =>
    match c.reader, Frame.readFrom c.inboxEnded c.inbox with
    | .reading, some (.message v, _) => [.dispatched v (c.pending.getD [])]
    | .reading, _ => [.closed]
    | _, _ => []
  | .writer =>
    match c.writer with
    | .sending bytes => if (c.target.put bytes).2.isOk then [] else [.closed]
    | _ => []
  | .call =>
    match c.call with
    | some ⟨_, .sending id, _⟩ => if c.accepts then [.sent id] else [.settled id (.error (.closed c.name))]
    | some ⟨goal, .waiting id _, .answered body⟩ => [.settled id (settle (Goal.method goal) body)]
    | some ⟨goal, .waiting id _, .lost⟩ => [.settled id (.error (.hungUp c.name (Goal.method goal)))]
    | some ⟨_, .waiting id _, .empty⟩ => [.expired id]
    | some ⟨goal, .expired id limit, _⟩ => [.settled id (.error (.timedOut (Goal.method goal) limit))]
    | _ => []
  | _ => []

/-- The notes that an observer takes of an event. -/
def observe (c : Connection) (e : Event) : List Note :=
  c.seen e (c.notes e)

/-- The notes of a run. -/
def history (c : Connection) : List Event → List Note
  | [] => []
  | e :: events => c.observe e ++ (c.react e).history events

/-- How a call goes on with the result of its request: it returns, or it turns to its notification. -/
inductive Concludes (goal : Goal) (id : Option Nat) (r : Except CallError Answer) (s : Requests) :
    Requests → Prop where
  | returns : Concludes goal id r s
      { s with call := none, returned := s.returned ++ [⟨goal, id, r.mapError (Goal.failure goal)⟩] }
  | notifies (slot : Slot) : Concludes goal id r s { s with call := some ⟨goal, .notifying r, slot⟩ }

/-- A call has just gone on with the result of its request: it returned it, or it turns to its notification. -/
def TakesUp (s : Requests) (goal : Goal) (r : Except CallError Answer) : Prop :=
  (s.call = none ∧ ∃ id, s.returned.getLast? = some ⟨goal, id, r.mapError (Goal.failure goal)⟩) ∨
    ∃ slot, s.call = some ⟨goal, .notifying r, slot⟩

namespace Concludes
variable {goal : Goal} {id : Option Nat} {r : Except CallError Answer} {s s' : Requests}

theorem takesUp (h : Concludes goal id r s s') : TakesUp s' goal r := by
  cases h with
  | returns => exact .inl ⟨rfl, id, by simp⟩
  | notifies slot => exact .inr ⟨slot, rfl⟩

theorem name_eq (h : Concludes goal id r s s') : s'.name = s.name := by
  cases h <;> rfl

theorem nextId_eq (h : Concludes goal id r s s') : s'.nextId = s.nextId := by
  cases h <;> rfl

theorem pending_eq (h : Concludes goal id r s s') : s'.pending = s.pending := by
  cases h <;> rfl

theorem requestId?_eq_none (h : Concludes goal id r s s') : s'.requestId? = none := by
  cases h <;> rfl

end Concludes

/-- All that one event can do to the requests, and the notes of it. -/
inductive Change (s : Requests) : List Note → Requests → Prop where
  | idle : Change s [] s
  | begins (goal : Goal) (ids : List Nat) (hcall : s.call = none) (hopen : s.pending = some ids) :
      Change s [.issued s.nextId goal]
        { s with
          nextId := s.nextId + 1
          pending := some (ids ++ [s.nextId])
          call := some ⟨goal, .sending s.nextId, .empty⟩ }
  | refused (goal : Goal) (hcall : s.call = none) (hclosed : s.pending = none) {s' : Requests}
      (h : Concludes goal none (.error (.closed s.name)) { s with nextId := s.nextId + 1 } s') :
      Change s [.issued s.nextId goal, .settled s.nextId (.error (.closed s.name))] s'
  | delivers (message body : Json) (id : Nat) (ids : List Nat) (hopen : s.pending = some ids)
      (hid : id ∈ ids) (hclass : Incoming.classify message = some (.response id body)) :
      Change s [.dispatched message ids] ((s.forget id).hand [id] (.answered body))
  | ignores (message : Json)
      (h : ∀ ids id body, s.pending = some ids →
        Incoming.classify message = some (.response id body) → id ∉ ids) :
      Change s [.dispatched message (s.pending.getD [])] s
  | closes : Change s [.closed] { s.hand (s.pending.getD []) .lost with pending := none }
  | sends (call : Call) (id : Nat) (deadline : Option Nat) (hcall : s.call = some call)
      (hstage : call.stage = .sending id) :
      Change s [.sent id] { s with call := some { call with stage := .waiting id deadline } }
  | abandoned (call : Call) (id : Nat) (hcall : s.call = some call) (hstage : call.stage = .sending id)
      {s' : Requests} (h : Concludes call.goal (some id) (.error (.closed s.name)) (s.forget id) s') :
      Change s [.settled id (.error (.closed s.name))] s'
  | answered (call : Call) (id : Nat) (deadline : Option Nat) (body : Json) (hcall : s.call = some call)
      (hstage : call.stage = .waiting id deadline) (hslot : call.slot = .answered body) {s' : Requests}
      (h : Concludes call.goal (some id) (settle (Goal.method call.goal) body) s s') :
      Change s [.settled id (settle (Goal.method call.goal) body)] s'
  | hungUp (call : Call) (id : Nat) (deadline : Option Nat) (hcall : s.call = some call)
      (hstage : call.stage = .waiting id deadline) (hslot : call.slot = .lost) {s' : Requests}
      (h : Concludes call.goal (some id) (.error (.hungUp s.name (Goal.method call.goal))) s s') :
      Change s [.settled id (.error (.hungUp s.name (Goal.method call.goal)))] s'
  | expires (call : Call) (id limit : Nat) (deadline : Option Nat) (hcall : s.call = some call)
      (hstage : call.stage = .waiting id deadline) (hslot : call.slot = .empty)
      (hlimit : Goal.timeout call.goal = some limit) :
      Change s [.expired id] { s with call := some { call with stage := .expired id limit } }
  | timedOut (call : Call) (id limit : Nat) (hcall : s.call = some call) (hstage : call.stage = .expired id limit)
      {s' : Requests}
      (h : Concludes call.goal (some id) (.error (.timedOut (Goal.method call.goal) limit)) (s.forget id) s') :
      Change s [.settled id (.error (.timedOut (Goal.method call.goal) limit))] s'
  | goesOn (call : Option Call) (new : List Returned) (hbefore : s.requestId? = none)
      (hafter : call.bind Call.requestId? = none) (hnew : ∀ r ∈ new, r.id = none) :
      Change s [] { s with call := call, returned := s.returned ++ new }
  | drops (id : Nat) (h : s.requestId? = some id) : Change s [.dropped id] { s with call := none }

theorem Change.moves {s : Requests} (call : Option Call) (hbefore : s.requestId? = none)
    (hafter : call.bind Call.requestId? = none) : Change s [] { s with call := call } := by
  have h := Change.goesOn call [] hbefore hafter (by simp)
  rwa [List.append_nil] at h

theorem afterRequest_concludes (c : Connection) (call : Call) (id : Option Nat) (r : Except CallError Answer) :
    Concludes call.goal id r c.requests (c.afterRequest call id r).requests := by
  cases h : Goal.goesOn call.goal r with
  | true =>
    have hgoes : (c.afterRequest call id r).requests =
        { c.requests with call := some ⟨call.goal, .notifying r, call.slot⟩ } := by
      simp [afterRequest, requests, h]
    rw [hgoes]
    exact .notifies call.slot
  | false =>
    have hreturns : (c.afterRequest call id r).requests =
        { c.requests with
          call := none
          returned := c.returned ++ [⟨call.goal, id, r.mapError (Goal.failure call.goal)⟩] } := by
      simp [afterRequest, requests, h]
    rw [hreturns]
    exact .returns

theorem afterNotification_change (c : Connection) (call : Call) (settled sent : Except CallError Answer)
    (h : c.requests.requestId? = none) : Change c.requests [] (c.afterNotification call settled sent).requests := by
  cases hcloses : Goal.isShutdown call.goal with
  | true =>
    have hgoes : (c.afterNotification call settled sent).requests =
        { c.requests with call := some ⟨call.goal, .closing (shutdownResult settled sent), call.slot⟩ } := by
      simp [afterNotification, requests, hcloses]
    rw [hgoes]
    exact .moves _ h rfl
  | false =>
    have hreturns : (c.afterNotification call settled sent).requests =
        { c.requests with
          call := none
          returned := c.returned ++ [⟨call.goal, none, Goal.result call.goal settled sent⟩] } := by
      simp [afterNotification, requests, hcloses]
    rw [hreturns]
    exact .goesOn none _ h rfl (by simp)

/-- A response changes the requests just if its id is registered. -/
theorem requests_deliver (c : Connection) (id : Nat) (body : Json) :
    (c.deliver id body).requests =
      if id ∈ c.pending.getD [] then (c.requests.forget id).hand [id] (.answered body) else c.requests := by
  have hdeliver : (c.deliver id body).requests =
      (c.requests.forget id).hand ((c.pending.getD []).filter (· = id)) (.answered body) := rfl
  rw [hdeliver]
  split
  · rename_i hmem
    have hsame : ∀ i, i ∈ (c.pending.getD []).filter (· = id) ↔ i ∈ [id] := by
      intro i
      simp only [List.mem_filter, decide_eq_true_eq, List.mem_singleton]
      exact ⟨fun h => h.2, fun h => ⟨h ▸ hmem, h⟩⟩
    rw [Requests.hand, Call.hand_congr hsame]
    rfl
  · rename_i hmem
    refine Requests.forget_hand_of_not_mem (s := c.requests) (fun ids hp hid => hmem ?_) _
    rwa [show c.pending = some ids from hp]

theorem deliver_change (c : Connection) {message body : Json} {id : Nat}
    (hclass : Incoming.classify message = some (.response id body)) :
    Change c.requests [.dispatched message (c.pending.getD [])] (c.deliver id body).requests := by
  rw [requests_deliver]
  split
  · rename_i hmem
    cases hp : c.pending with
    | none => simp [hp] at hmem
    | some ids =>
      rw [hp] at hmem
      exact .delivers message body id ids hp hmem hclass
  · rename_i hmem
    refine .ignores message fun ids id' body' hp hclass' hid => hmem ?_
    cases hclass.symm.trans hclass'
    rwa [show c.pending = some ids from hp]

theorem requestId?_of_call {c : Connection} {call : Call} (hcall : c.call = some call) (h : call.requestId? = none) :
    c.requests.requestId? = none := by
  simp [Requests.requestId?, requests, hcall, h]

/-- Nothing else ever happens to the requests. -/
theorem Step.change {c c' : Connection} {e : Event} (h : Step c e c') :
    Change c.requests (c.notes e) c'.requests := by
  cases h with
  | notice method params hcall hused => exact .moves _ (by simp [Requests.requestId?, requests, hcall]) rfl
  | register goal ids hgoal hcall hused hopen =>
    simp only [notes, hgoal, hopen, if_true, Option.isNone_some, Bool.false_eq_true, if_false]
    exact .begins goal ids hcall hopen
  | turnAway goal hgoal hcall hused hclosed =>
    have hnotes : c.notes (.start goal) = [.issued c.nextId goal, .settled c.nextId (.error (.closed c.name))] := by
      simp [notes, hgoal, hclosed]
    rw [hnotes]
    exact .refused goal hcall hclosed
      (afterRequest_concludes { c with nextId := c.nextId + 1 } ⟨goal, .sending c.nextId, .empty⟩ none _)
  | cancel =>
    have hdropped : c.cancel.requests = { c.requests with call := none } := rfl
    have hid : c.requestId? = c.requests.requestId? := rfl
    rw [hdropped, notes, hid]
    cases hreq : c.requests.requestId? with
    | none => exact .moves none hreq rfl
    | some id => exact .drops id hreq
  | reply reply hreader hroom =>
    simp only [notes, hreader]
    exact .idle
  | response v rest id body hreader hread hclass =>
    simp only [notes, hreader, hread]
    exact deliver_change ({ c with inbox := rest }.addEntry .receive v) hclass
  | request v rest id method hreader hread hclass =>
    simp only [notes, hreader, hread]
    exact .ignores v (by simp [hclass])
  | notification v rest method params hreader hread hclass =>
    simp only [notes, hreader, hread]
    exact .ignores v (by simp [hclass])
  | noise v rest hreader hread hclass =>
    simp only [notes, hreader, hread]
    exact .ignores v (by simp [hclass])
  | finish rest hreader hread =>
    simp only [notes, hreader, hread]
    exact .closes
  | giveUp e rest hreader hread =>
    simp only [notes, hreader, hread]
    exact .closes
  | take frame hwriter hnext =>
    simp only [notes, hwriter]
    exact .idle
  | pass bytes rest target hwriter hwindow hput =>
    simp only [notes, hwriter, hput]
    exact .idle
  | breakOff bytes target e hwriter hwindow hput =>
    simp only [notes, hwriter, hput]
    exact .closes
  | stop hwriter hnext =>
    simp only [notes, hwriter]
    exact .idle
  | ask goal id slot hcall haccepts hroom =>
    simp only [notes, hcall, haccepts, if_true]
    exact .sends ⟨goal, .sending id, slot⟩ id _ hcall rfl
  | askNobody goal id slot hcall haccepts =>
    simp only [notes, hcall, haccepts, Bool.false_eq_true, if_false]
    exact .abandoned _ id hcall rfl (afterRequest_concludes (c.forget id) _ _ _)
  | settle goal id deadline body hcall =>
    simp only [notes, hcall]
    exact .answered _ id deadline body hcall rfl rfl (afterRequest_concludes c _ _ _)
  | hangUp goal id deadline hcall =>
    simp only [notes, hcall]
    exact .hungUp _ id deadline hcall rfl rfl (afterRequest_concludes c _ _ _)
  | expire goal id t limit hcall hlimit ht =>
    simp only [notes, hcall]
    exact .expires ⟨goal, .waiting id (some t), .empty⟩ id limit _ hcall rfl rfl hlimit
  | abandon goal id limit slot hcall =>
    simp only [notes, hcall]
    exact .timedOut ⟨goal, .expired id limit, slot⟩ id limit hcall rfl (afterRequest_concludes (c.forget id) _ _ _)
  | say goal settled slot hcall haccepts hroom =>
    simp only [notes, hcall]
    exact afterNotification_change { c with channel := c.channel.push (.send (Goal.notification goal)) } _ _ _
      (requestId?_of_call hcall rfl)
  | sayToNobody goal settled slot hcall haccepts =>
    simp only [notes, hcall]
    exact afterNotification_change c _ _ _ (requestId?_of_call hcall rfl)
  | close goal settled slot hcall haccepts hroom =>
    simp only [notes, hcall]
    exact .moves _ (requestId?_of_call hcall rfl) rfl
  | closeNothing goal settled slot hcall haccepts =>
    simp only [notes, hcall]
    exact .moves _ (requestId?_of_call hcall rfl) rfl
  | join goal settled slot hcall haccepts =>
    simp only [notes, hcall]
    exact .goesOn none _ (requestId?_of_call hcall rfl) rfl (by simp)
  | _ => exact .idle

theorem react_change (c : Connection) (e : Event) : Change c.requests (c.observe e) (c.react e).requests := by
  rcases react_cases c e with ⟨hnone, hstays⟩ | hstep
  · rw [hstays, observe, seen_of_none hnone]
    exact .idle
  · rw [observe, hstep.seen_eq]
    exact hstep.change

/-- What every change keeps, with the notes of it, holds after every run. -/
theorem follow_invariant {P : Requests → List Note → Prop}
    (step : ∀ {s s' : Requests} {notes new : List Note}, P s notes → Change s new s' → P s' (notes ++ new))
    (events : List Event) {c : Connection} (notes : List Note) (h : P c.requests notes) :
    P (c.follow events).requests (notes ++ c.history events) := by
  -- Every connection on the way is the start of the rest of the run.
  induction events generalizing c notes with
  | nil => simpa [history] using h
  | cons e events ih =>
    rw [follow_cons, history, ← List.append_assoc]
    exact ih _ (step h (react_change c e))

theorem Change.name_eq {s s' : Requests} {new : List Note} (h : Change s new s') : s'.name = s.name := by
  cases h with
  | refused goal hcall hclosed hs => exact hs.name_eq
  | abandoned call id hcall hstage hs => exact hs.name_eq
  | answered call id deadline body hcall hstage hslot hs => exact hs.name_eq
  | hungUp call id deadline hcall hstage hslot hs => exact hs.name_eq
  | timedOut call id limit hcall hstage hs => exact hs.name_eq
  | _ => rfl

@[simp] theorem follow_name (c : Connection) (events : List Event) : (c.follow events).name = c.name :=
  follow_invariant (P := fun s _ => s.name = c.name) (fun hname hchange => hchange.name_eq.trans hname)
    events [] rfl

theorem history_append (c : Connection) (xs ys : List Event) :
    c.history (xs ++ ys) = c.history xs ++ (c.follow xs).history ys := by
  induction xs generalizing c with
  | nil => rfl
  | cons e xs ih => simp [history, ih]

/-- A note of a run is taken of one of its events. -/
theorem mem_history {c : Connection} {events : List Event} {note : Note} :
    note ∈ c.history events ↔
      ∃ before e after, events = before ++ e :: after ∧ note ∈ (c.follow before).observe e := by
  constructor
  · intro h
    induction events generalizing c with
    | nil => cases h
    | cons e events ih =>
      rcases List.mem_append.1 h with h | h
      · exact ⟨[], e, events, rfl, h⟩
      · obtain ⟨before, e', after, rfl, hnote⟩ := ih h
        exact ⟨e :: before, e', after, rfl, hnote⟩
  · rintro ⟨before, e, after, rfl, hnote⟩
    rw [history_append, history]
    exact List.mem_append_right _ (List.mem_append_left _ hnote)

end Connection

end LspClient
