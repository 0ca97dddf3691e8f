import LspClient.Proofs.RequestHistory

/-!
# The table of waiting requests

The table is open until a stream fails and closed from then on. While it is open it lists the request in progress
for as long as that has no answer, and no other request but those whose calls were dropped.
-/

namespace LspClient.Connection

/-- An event that fails a stream: the reader comes to the end of its stream or to something that is no frame,
or the writer cannot write a frame. -/
inductive Breaks (c : Connection) : Event → Prop where
  | ended {rest : Bytes} (hr : c.reader = .reading)
      (h : Frame.readFrom c.inboxEnded c.inbox = some (.ended, rest)) : Breaks c .reader
  | unreadable {rest : Bytes} {e : FrameError} (hr : c.reader = .reading)
      (h : Frame.readFrom c.inboxEnded c.inbox = some (.failed e, rest)) : Breaks c .reader
  | unwritable {bytes : Bytes} {target : Target} {e : StreamError} (hw : c.writer = .sending bytes)
      (hwindow : c.target.window ≠ some 0) (h : c.target.put bytes = (target, .error e)) : Breaks c .writer

theorem Step.breaks {c c' : Connection} {e : Event} (hstep : Step c e c') (h : .closed ∈ c.notes e) : Breaks c e := by
  cases e with
  | start goal =>
    simp only [notes] at h
    split at h
    · split at h <;> simp at h
    · cases h
  | cancel => cases hid : c.requestId? <;> simp [notes, hid] at h
  | reader =>
    cases hstep with
    | finish rest hreader hread => exact .ended hreader hread
    | giveUp e rest hreader hread => exact .unreadable hreader hread
    | reply reply hreader => simp [notes, hreader] at h
    | response v rest id body hreader hread => simp [notes, hreader, hread] at h
    | request v rest id method hreader hread => simp [notes, hreader, hread] at h
    | notification v rest method params hreader hread => simp [notes, hreader, hread] at h
    | noise v rest hreader hread => simp [notes, hreader, hread] at h
  | writer =>
    cases hstep with
    | breakOff bytes target e hwriter hwindow hput => exact .unwritable hwriter hwindow hput
    | take frame hwriter => simp [notes, hwriter] at h
    | pass bytes rest target hwriter hwindow hput => simp [notes, hwriter, hput, Except.isOk, Except.toBool] at h
    | stop hwriter => simp [notes, hwriter] at h
  | call =>
    simp only [notes] at h
    split at h
    · split at h <;> simp at h
    all_goals simp at h
  | _ => cases h

theorem closed_mem_observe {c : Connection} {e : Event} : .closed ∈ c.observe e ↔ Breaks c e := by
  constructor
  · intro h
    rcases react_cases c e with ⟨hnone, -⟩ | hstep
    · rw [observe, seen_of_none hnone] at h
      cases h
    · rw [observe, hstep.seen_eq] at h
      exact hstep.breaks h
  · intro h
    cases h with
    | ended hr h =>
      rw [observe, (Step.finish _ hr h).seen_eq]
      simp [notes, hr, h]
    | unreadable hr h =>
      rw [observe, (Step.giveUp _ _ hr h).seen_eq]
      simp [notes, hr, h]
    | unwritable hw hwindow h =>
      rw [observe, (Step.breakOff _ _ _ hw hwindow h).seen_eq]
      simp [notes, hw, h, Except.isOk, Except.toBool]

theorem Change.pending_eq_none_iff {s s' : Requests} {new : List Note} (h : Change s new s') :
    s'.pending = none ↔ s.pending = none ∨ .closed ∈ new := by
  cases h with
  | begins goal ids hcall hopen => simp [hopen]
  | refused goal hcall hclosed hs => simp [hs.pending_eq, hclosed]
  | delivers message body id ids hopen hid hclass => simp [Requests.hand, Requests.forget]
  | abandoned call id hcall hstage hs => simp [hs.pending_eq, Requests.forget]
  | answered call id deadline body hcall hstage hslot hs => simp [hs.pending_eq]
  | hungUp call id deadline hcall hstage hslot hs => simp [hs.pending_eq]
  | timedOut call id limit hcall hstage hs => simp [hs.pending_eq, Requests.forget]
  | _ => simp

/-- What the table lists: a request in progress as long as it has no answer, and requests whose calls were
dropped. -/
structure Lists (s : Requests) (notes : List Note) : Prop where
  listed : ∀ ids, s.pending = some ids → ∀ id ∈ ids,
    id < s.nextId ∧ (s.requestId? = some id ∨ .dropped id ∈ notes)
  unanswered : ∀ call, s.call = some call → ∀ id, call.requestId? = some id →
    (call.slot = .empty ↔ id ∈ s.pending.getD [])

section Steps
variable {s s' : Requests} {notes : List Note} (h : Lists s notes)
include h

/-- The call has no request any more: what stays listed is not its request, or the call was dropped. -/
theorem Lists.leave (new : List Note) (hnext : s.nextId ≤ s'.nextId) (hnone : s'.requestId? = none)
    (hpending : ∀ ids, s'.pending = some ids →
      ∃ old, s.pending = some old ∧ ∀ id ∈ ids, id ∈ old ∧ (s.requestId? = some id → .dropped id ∈ new)) :
    Lists s' (notes ++ new) := by
  constructor
  · intro ids hids id hid
    obtain ⟨old, hold, hsub⟩ := hpending ids hids
    obtain ⟨hmem, hleft⟩ := hsub id hid
    obtain ⟨hlt, hcurrent | hdropped⟩ := h.listed old hold id hmem
    · exact ⟨Nat.lt_of_lt_of_le hlt hnext, .inr (List.mem_append_right _ (hleft hcurrent))⟩
    · exact ⟨Nat.lt_of_lt_of_le hlt hnext, .inr (List.mem_append_left _ hdropped)⟩
  · intro call hcall id hid
    simp [Requests.requestId?, hcall, hid] at hnone

/-- A request that is forgotten is listed no more. -/
theorem Lists.forget {goal : Goal} {id : Nat} {shown : Option Nat} {r : Except CallError Answer}
    (hid : s.requestId? = some id) (hs : Concludes goal shown r (s.forget id) s') (new : List Note) :
    Lists s' (notes ++ new) := by
  refine h.leave new (Nat.le_of_eq hs.nextId_eq.symm) hs.requestId?_eq_none fun ids hids => ?_
  rw [hs.pending_eq] at hids
  obtain ⟨old, hold, hsub⟩ := Requests.of_forget_pending hids
  refine ⟨old, hold, fun i hi => ⟨(hsub i hi).1, fun hcurrent => ?_⟩⟩
  rw [hid] at hcurrent
  exact absurd (Option.some.inj hcurrent).symm (hsub i hi).2

/-- A request that has got something is listed no more. -/
theorem Lists.take {call : Call} {shown : Option Nat} {r : Except CallError Answer}
    (hcall : s.call = some call) (hslot : call.slot ≠ .empty) (hs : Concludes call.goal shown r s s')
    (new : List Note) : Lists s' (notes ++ new) := by
  refine h.leave new (Nat.le_of_eq hs.nextId_eq.symm) hs.requestId?_eq_none fun ids hids => ?_
  rw [hs.pending_eq] at hids
  refine ⟨ids, hids, fun i hi => ⟨hi, fun hcurrent => ?_⟩⟩
  have hi' : call.requestId? = some i := by simpa [Requests.requestId?, hcall] using hcurrent
  have hempty := (h.unanswered call hcall i hi').2 (by simpa [hids] using hi)
  exact absurd hempty hslot

/-- The call goes on with the same request and what that has got. -/
theorem Lists.onwards {call call' : Call} {id : Nat} (hcall : s.call = some call) (hid : call.requestId? = some id)
    (hid' : call'.requestId? = some id) (hslot : call'.slot = call.slot) (new : List Note) :
    Lists { s with call := some call' } (notes ++ new) := by
  have hcurrent : s.requestId? = some id := by simp [Requests.requestId?, hcall, hid]
  constructor
  · intro ids hids i hi
    obtain ⟨hlt, hwho⟩ := h.listed ids hids i hi
    rw [hcurrent, ← hid'] at hwho
    exact ⟨hlt, hwho.imp_right (List.mem_append_left _)⟩
  · intro call'' hcall'' i hi
    cases hcall''
    rw [hid', ← hid] at hi
    rw [hslot]
    exact h.unanswered call hcall i hi

theorem Lists.begin (goal : Goal) {ids : List Nat} (hcall : s.call = none) (hopen : s.pending = some ids)
    (new : List Note) :
    Lists
      { s with
        nextId := s.nextId + 1
        pending := some (ids ++ [s.nextId])
        call := some ⟨goal, .sending s.nextId, .empty⟩ }
      (notes ++ new) := by
  constructor
  · intro ids' hids' id hid
    cases hids'
    rcases List.mem_append.1 hid with hid | hid
    · obtain ⟨hlt, hcurrent | hdropped⟩ := h.listed ids hopen id hid
      · simp [Requests.requestId?, hcall] at hcurrent
      · exact ⟨Nat.lt_succ_of_lt hlt, .inr (List.mem_append_left _ hdropped)⟩
    · cases List.mem_singleton.1 hid
      exact ⟨Nat.lt_succ_self _, .inl rfl⟩
  · intro call hcall' id hid
    cases hcall'
    cases hid
    simp

theorem Lists.deliver {body : Json} {id : Nat} {ids : List Nat} (hopen : s.pending = some ids)
    (new : List Note) : Lists ((s.forget id).hand [id] (.answered body)) (notes ++ new) := by
  have hpending : ((s.forget id).hand [id] (.answered body)).pending = some (ids.filter (· ≠ id)) := by
    simp [Requests.hand, Requests.forget, hopen]
  have hreq : ((s.forget id).hand [id] (.answered body)).requestId? = s.requestId? := by
    cases hcall : s.call <;> simp [Requests.hand, Requests.forget, Requests.requestId?, hcall]
  constructor
  · intro left hleft i hi
    rw [hpending] at hleft
    cases hleft
    obtain ⟨hlt, hcurrent | hdropped⟩ := h.listed ids hopen i (List.mem_filter.1 hi).1
    · exact ⟨hlt, .inl (hreq.trans hcurrent)⟩
    · exact ⟨hlt, .inr (List.mem_append_left _ hdropped)⟩
  · intro call' hcall' i hi
    obtain ⟨call, hcall, rfl⟩ := Option.map_eq_some_iff.1 hcall'
    rw [Call.hand_requestId?] at hi
    have hunanswered := h.unanswered call hcall i hi
    rw [Call.hand_slot hi, hpending]
    rw [hopen] at hunanswered
    by_cases hne : i = id
    · simp [hne]
    · simpa [hne] using hunanswered

theorem Lists.close (new : List Note) :
    Lists { s.hand (s.pending.getD []) .lost with pending := none } (notes ++ new) := by
  constructor
  · intro ids hids
    cases hids
  · intro call' hcall' id hid
    obtain ⟨call, hcall, rfl⟩ := Option.map_eq_some_iff.1 hcall'
    rw [Call.hand_requestId?] at hid
    rw [Call.hand_slot hid]
    split
    · simp
    · rename_i hmem
      simpa [hmem] using h.unanswered call hcall id hid

theorem Lists.step {new : List Note} (hchange : Change s new s') : Lists s' (notes ++ new) := by
  -- A request leaves the table in one of two ways: the reader took it off with an answer, or the call forgets it.
  have hcurrent : ∀ {call : Call} {id : Nat}, s.call = some call → call.requestId? = some id →
      s.requestId? = some id := by
    intro call id hcall hid
    simp [Requests.requestId?, hcall, hid]
  cases hchange with
  | idle => rwa [List.append_nil]
  | begins goal ids hcall hopen => exact h.begin goal hcall hopen _
  | refused goal hcall hclosed hs =>
    refine h.leave _ ?_ hs.requestId?_eq_none ?_
    · rw [hs.nextId_eq]
      exact Nat.le_succ _
    · rw [hs.pending_eq]
      simp [hclosed]
  | delivers message body id ids hopen hid hclass => exact h.deliver hopen _
  | ignores message hignored =>
    refine ⟨fun ids hids id hid => ?_, h.unanswered⟩
    obtain ⟨hlt, hwho⟩ := h.listed ids hids id hid
    exact ⟨hlt, hwho.imp_right (List.mem_append_left _)⟩
  | closes => exact h.close _
  | sends call id deadline hcall hstage =>
    refine h.onwards hcall (Call.requestId?_of_sending hstage) ?_ ?_ _
    · rfl
    · rfl
  | abandoned call id hcall hstage hs =>
    exact h.forget (hcurrent hcall (Call.requestId?_of_sending hstage)) hs _
  | answered call id deadline body hcall hstage hslot hs =>
    exact h.take hcall (by simp [hslot]) hs _
  | hungUp call id deadline hcall hstage hslot hs =>
    exact h.take hcall (by simp [hslot]) hs _
  | expires call id limit deadline hcall hstage hslot hlimit =>
    refine h.onwards hcall (Call.requestId?_of_waiting hstage) ?_ ?_ _
    · rfl
    · rfl
  | timedOut call id limit hcall hstage hs =>
    exact h.forget (hcurrent hcall (Call.requestId?_of_expired hstage)) hs _
  | goesOn call new hbefore hafter hnew =>
    exact h.leave _ (Nat.le_refl _) hafter fun ids hids => ⟨ids, hids, fun id hid => ⟨hid, by simp [hbefore]⟩⟩
  | drops id hid =>
    refine h.leave _ (Nat.le_refl _) rfl fun ids hids => ⟨ids, hids, fun i hi => ⟨hi, fun hcur => ?_⟩⟩
    rw [hid] at hcur
    cases hcur
    exact List.mem_singleton.2 rfl

end Steps

theorem pending_eq_none_iff (name : String) (level : TraceLevel) (clock : String) (target : Target)
    (events : List Event) :
    ((opened name level clock target).follow events).pending = none ↔
      .closed ∈ (opened name level clock target).history events := by
  have hopened : (opened name level clock target).requests.pending = none ↔ .closed ∈ ([] : List Note) := by
    simp [requests, opened]
  refine follow_invariant (P := fun s notes => s.pending = none ↔ .closed ∈ notes) ?_ events [] hopened
  intro s s' notes new hs hchange
  rw [hchange.pending_eq_none_iff, hs, List.mem_append]

theorem lists_follow (name : String) (level : TraceLevel) (clock : String) (target : Target)
    (events : List Event) :
    Lists ((opened name level clock target).follow events).requests
      ((opened name level clock target).history events) := by
  have hopened : Lists (opened name level clock target).requests [] := by
    constructor
    · intro ids hids id hid
      cases hids
      cases hid
    · intro call hcall
      cases hcall
  exact follow_invariant (fun h hchange => h.step hchange) events [] hopened

/-- A request that has got something is over with the next step of the call. -/
theorem requestId?_react_call {c : Connection} {goal : Goal} {id : Nat} {deadline : Option Nat} {slot : Slot}
    (hcall : c.call = some ⟨goal, .waiting id deadline, slot⟩) (hslot : slot ≠ .empty) :
    (c.react .call).requestId? = none := by
  have hover : ∀ {c' : Connection} {goal : Goal} {shown : Option Nat} {r : Except CallError Answer},
      Step c .call c' → Concludes goal shown r c.requests c'.requests → (c.react .call).requestId? = none := by
    intro c' goal shown r hstep hs
    rw [react, hstep.next?_eq]
    exact hs.requestId?_eq_none
  cases slot with
  | empty => exact absurd rfl hslot
  | answered body => exact hover (.settle goal id deadline body hcall) (afterRequest_concludes c _ _ _)
  | lost => exact hover (.hangUp goal id deadline hcall) (afterRequest_concludes c _ _ _)

theorem beginRequest_of_closed {c : Connection} (hp : c.pending = none) (goal : Goal) :
    c.beginRequest goal =
      { c with nextId := c.nextId + 1 }.afterRequest ⟨goal, .sending c.nextId, .empty⟩ none
        (.error (.closed c.name)) := by
  unfold beginRequest
  simp only [hp]

/-- A request that begins when the table is closed comes to an error at once. -/
theorem start_of_closed {c : Connection} (hp : c.pending = none) {goal : Goal} (hgoal : goal.makesRequest)
    (hcall : c.call = none) (hused : c.usedUp = false) :
    ∃ c', c.start goal = .ok c' ∧ c'.pending = none ∧ c'.channel = c.channel ∧ c'.requestId? = none ∧
      TakesUp c'.requests goal (.error (.closed c.name)) := by
  have hconcludes := afterRequest_concludes { c with nextId := c.nextId + 1 }
    ⟨goal, .sending c.nextId, .empty⟩ none (.error (.closed c.name))
  refine ⟨_, start_request hgoal hcall hused, ?_⟩
  rw [beginRequest_of_closed hp]
  exact ⟨hconcludes.pending_eq.trans hp, rfl, hconcludes.requestId?_eq_none, hconcludes.takesUp⟩

theorem start_request_of_closed {c : Connection} (hp : c.pending = none) (hcall : c.call = none)
    (hused : c.usedUp = false) (method : String) (params : Option Json) (timeout : Option Nat) :
    c.start (.request method params timeout) =
      .ok { c with
        nextId := c.nextId + 1
        returned := c.returned ++ [⟨.request method params timeout, none,
          .error ⟨"connection to '" ++ c.name ++ "' is closed", []⟩⟩] } := by
  have hmessage : (CallError.closed c.name).message = "connection to '" ++ c.name ++ "' is closed" := rfl
  rw [start_request rfl hcall hused, beginRequest_of_closed hp, ← hmessage, afterRequest, hcall]
  rfl

/-- The table closes when a stream fails, and only then, and stays closed; whoever waits is then over with the
next step of the call. While it is open it lists no request but the one in progress, unless calls were dropped. A
request that begins when it is closed fails at once, without being listed and without a frame. -/
theorem pending_table_kept (name : String) (level : TraceLevel) (clock : String) (target : Target)
    (events : List Event) :
    let origin := opened name level clock target
    let c := origin.follow events
    (c.pending = none ↔
      ∃ before e after, events = before ++ e :: after ∧ Breaks (origin.follow before) e) ∧
    (c.pending = none →
      (∀ more, (c.follow more).pending = none) ∧
      ∀ goal id deadline slot, c.call = some ⟨goal, .waiting id deadline, slot⟩ →
        (c.react .call).requestId? = none) ∧
    (∀ ids, c.pending = some ids → ∀ id ∈ ids,
      id < c.nextId ∧ (c.requestId? = some id ∨ .dropped id ∈ origin.history events)) ∧
    ((∀ id, .dropped id ∉ origin.history events) → c.requestId? = none →
      ∀ ids, c.pending = some ids → ids = []) ∧
    (c.pending = none → c.call = none → c.usedUp = false →
      (∀ method params timeout, c.start (.request method params timeout) =
        .ok { c with
          nextId := c.nextId + 1
          returned := c.returned ++ [⟨.request method params timeout, none,
            .error ⟨"connection to '" ++ name ++ "' is closed", []⟩⟩] }) ∧
      ∀ goal, goal.makesRequest →
        ∃ c', c.start goal = .ok c' ∧ c'.pending = none ∧ c'.channel = c.channel ∧ c'.requestId? = none ∧
          TakesUp c'.requests goal (.error (.closed name))) := by
  intro origin c
  have hclosed : ∀ run, (origin.follow run).pending = none ↔ .closed ∈ origin.history run :=
    pending_eq_none_iff name level clock target
  have hlists := lists_follow name level clock target events
  have hname : c.name = name := follow_name origin events
  have hlisted : ∀ ids, c.pending = some ids → ∀ id ∈ ids,
      id < c.nextId ∧ (c.requestId? = some id ∨ .dropped id ∈ origin.history events) := hlists.listed
  refine ⟨?_, ?_, hlisted, ?_, ?_⟩
  · rw [hclosed, mem_history]
    simp only [closed_mem_observe]
  · intro hnone
    constructor
    · intro more
      rw [← follow_append, hclosed, history_append]
      exact List.mem_append_left _ ((hclosed events).1 hnone)
    · intro goal id deadline slot hcall
      -- A slot that is still empty would be listed, and nothing is.
      refine requestId?_react_call hcall fun hempty => ?_
      have hid := (hlists.unanswered _ hcall id rfl).1 hempty
      rw [show c.requests.pending = none from hnone] at hid
      cases hid
  · intro hkept hnone ids hids
    refine List.eq_nil_iff_forall_not_mem.2 fun id hid => ?_
    obtain ⟨-, hcurrent | hdropped⟩ := hlisted ids hids id hid
    · rw [hnone] at hcurrent
      cases hcurrent
    · exact hkept id hdropped
  · intro hnone hcall hused
    constructor
    · rw [← hname]
      exact start_request_of_closed hnone hcall hused
    · intro goal hgoal
      rw [← hname]
      exact start_of_closed hnone hgoal hcall hused

end LspClient.Connection
