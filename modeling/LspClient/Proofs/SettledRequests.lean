import LspClient.Proofs.PendingTable
import LspClient.Proofs.ResponseRouting

/-!
# Requests that are over

A request that has come to a result is listed no more, so nothing answers it after that. What answers a request is
therefore known when it is settled.
-/

namespace LspClient.Connection

theorem settledIds_append (xs ys : List Note) : settledIds (xs ++ ys) = settledIds xs ++ settledIds ys :=
  List.filterMap_append

/-- Requests that have come to a result are listed no more. -/
def Unlisted (s : Requests) (notes : List Note) : Prop :=
  ∀ id ∈ settledIds notes, id ∉ s.pending.getD []

theorem not_mem_forget (s : Requests) (id : Nat) : id ∉ (s.forget id).pending.getD [] := by
  cases hp : s.pending <;> simp [Requests.forget, hp]

theorem mem_of_mem_forget {s : Requests} {id i : Nat} (h : i ∈ (s.forget id).pending.getD []) :
    i ∈ s.pending.getD [] := by
  cases hp : s.pending with
  | none => simp [Requests.forget, hp] at h
  | some ids =>
    have hi : i ∈ ids.filter (· ≠ id) := by simpa [Requests.forget, hp] using h
    exact (List.mem_filter.mp hi).1

section Unlisted
variable {s s' : Requests} {notes : List Note} (h : Unlisted s notes)
include h

theorem Unlisted.keep {new : List Note} (hnew : settledIds new = [])
    (hsub : ∀ i ∈ s'.pending.getD [], i ∈ s.pending.getD []) : Unlisted s' (notes ++ new) := by
  intro id hid hmem
  rw [settledIds_append, hnew, List.append_nil] at hid
  exact h id hid (hsub id hmem)

/-- One more request is settled. -/
theorem Unlisted.settle {id : Nat} (r : Except CallError Answer) (hid : id ∉ s'.pending.getD [])
    (hsub : ∀ i ∈ s'.pending.getD [], i ∈ s.pending.getD []) : Unlisted s' (notes ++ [.settled id r]) := by
  intro i hi hmem
  rw [settledIds_append, List.mem_append] at hi
  rcases hi with hi | hi
  · exact h i hi (hsub i hmem)
  · cases List.mem_singleton.mp hi
    exact hid hmem

theorem Unlisted.step {new : List Note} (htracks : Tracks s notes) (hlists : Lists s notes)
    (hchange : Change s new s') : Unlisted s' (notes ++ new) := by
  -- A request that has got something was taken off the table when it did.
  have htaken : ∀ {call : Call} {id : Nat} {deadline : Option Nat}, s.call = some call →
      call.stage = .waiting id deadline → call.slot ≠ .empty → id ∉ s.pending.getD [] := by
    intro call id deadline hcall hstage hslot hmem
    exact hslot ((hlists.unanswered call hcall id (Call.requestId?_of_waiting hstage)).mpr hmem)
  cases hchange with
  | idle => exact h.keep rfl fun _ hi => hi
  | begins goal ids hcall hopen =>
    intro id hid hmem
    rw [settledIds_append, show settledIds [Note.issued s.nextId goal] = [] from rfl, List.append_nil] at hid
    rcases List.mem_append.mp hmem with hmem | hmem
    · exact h id hid (by simpa [hopen] using hmem)
    · cases List.mem_singleton.mp hmem
      exact htracks.next_unsettled hid
  | refused goal hcall hclosed hs =>
    have hnone : s'.pending = none := hs.pending_eq.trans hclosed
    intro id _
    simp [hnone]
  | delivers message body id ids hopen hid hclass => exact h.keep rfl fun i hi => mem_of_mem_forget hi
  | ignores message hignored => exact h.keep rfl fun _ hi => hi
  | closes => exact h.keep rfl fun _ hi => nomatch hi
  | sends call id deadline hcall hstage => exact h.keep rfl fun _ hi => hi
  | abandoned call id hcall hstage hs =>
    refine h.settle _ ?_ fun i hi => ?_
    · rw [hs.pending_eq]
      exact not_mem_forget s id
    · rw [hs.pending_eq] at hi
      exact mem_of_mem_forget hi
  | answered call id deadline body hcall hstage hslot hs =>
    refine h.settle _ ?_ fun i hi => ?_
    · rw [hs.pending_eq]
      exact htaken hcall hstage (by simp [hslot])
    · rwa [hs.pending_eq] at hi
  | hungUp call id deadline hcall hstage hslot hs =>
    refine h.settle _ ?_ fun i hi => ?_
    · rw [hs.pending_eq]
      exact htaken hcall hstage (by simp [hslot])
    · rwa [hs.pending_eq] at hi
  | expires call id limit deadline hcall hstage hslot hlimit => exact h.keep rfl fun _ hi => hi
  | timedOut call id limit hcall hstage hs =>
    refine h.settle _ ?_ fun i hi => ?_
    · rw [hs.pending_eq]
      exact not_mem_forget s id
    · rw [hs.pending_eq] at hi
      exact mem_of_mem_forget hi
  | goesOn call new hbefore hafter hnew => exact h.keep rfl fun _ hi => hi
  | drops id hid => exact h.keep rfl fun _ hi => hi

end Unlisted

section Opened
variable (name : String) (level : TraceLevel) (clock : String) (target : Target)

theorem unlisted_follow (events : List Event) :
    Unlisted ((opened name level clock target).follow events).requests
      ((opened name level clock target).history events) := by
  have hboth := follow_invariant
    (P := fun s notes => Tracks s notes ∧ Lists s notes ∧ Unlisted s notes)
    (fun ⟨htracks, hlists, hunlisted⟩ hchange =>
      ⟨htracks.step hchange, hlists.step hchange, hunlisted.step htracks hlists hchange⟩)
    events (c := opened name level clock target) []
    ⟨tracks_follow name level clock target [], lists_follow name level clock target [], fun _ hid => nomatch hid⟩
  exact hboth.2.2

end Opened

theorem registered_of_observe {c : Connection} {e : Event} {message : Json} {registered : List Nat}
    (h : .dispatched message registered ∈ c.observe e) : registered = c.pending.getD [] := by
  have hchange := react_change c e
  generalize c.observe e = new at h hchange
  generalize (c.react e).requests = s at hchange
  cases hchange with
  | delivers message' body id ids hopen hid hclass =>
    cases List.mem_singleton.1 h
    exact (congrArg (Option.getD · []) hopen).symm
  | ignores message' hignored =>
    cases List.mem_singleton.1 h
    rfl
  | _ => simp at h

theorem firstAnswer?_append (id : Nat) (xs ys : List Note) :
    firstAnswer? id (xs ++ ys) = (firstAnswer? id xs).or (firstAnswer? id ys) :=
  List.findSome?_append

/-- While a request is not listed nothing answers it. -/
theorem firstAnswer?_eq_none {c : Connection} {id : Nat} {events : List Event}
    (h : ∀ before e after, events = before ++ e :: after → id ∉ (c.follow before).pending.getD []) :
    firstAnswer? id (c.history events) = none := by
  refine List.findSome?_eq_none_iff.mpr fun note hnote => ?_
  obtain ⟨before, e, after, rfl, hobserved⟩ := mem_history.mp hnote
  rw [Option.eq_none_iff_forall_ne_some]
  intro body hbody
  obtain ⟨message, registered, rfl, hid, -⟩ := Note.answer?_eq_some.mp hbody
  rw [registered_of_observe hobserved] at hid
  exact h before e after rfl hid

/-- Nothing answers a request any more when it has come to a result. -/
theorem firstAnswer?_of_settled (name : String) (level : TraceLevel) (clock : String) (target : Target) {id : Nat}
    (before after : List Event) (h : id ∈ settledIds ((opened name level clock target).history before)) :
    firstAnswer? id ((opened name level clock target).history (before ++ after)) =
      firstAnswer? id ((opened name level clock target).history before) := by
  have hlater : firstAnswer? id (((opened name level clock target).follow before).history after) = none := by
    refine firstAnswer?_eq_none fun xs e ys _ => ?_
    rw [← follow_append]
    apply unlisted_follow name level clock target (before ++ xs)
    rw [history_append, settledIds_append]
    exact List.mem_append_left _ h
  rw [history_append, firstAnswer?_append, hlater, Option.or_none]

/-- An id is issued for one goal. -/
theorem issued_unique {name : String} {notes : List Note} (h : SoundHistory name notes) {id : Nat}
    {goal goal' : Goal} (hgoal : .issued id goal ∈ notes) (hgoal' : .issued id goal' ∈ notes) : goal = goal' := by
  induction notes using List.reverseRecOn with
  | nil => cases hgoal
  | append_singleton notes note ih =>
    obtain ⟨hnotes, hnote⟩ := soundHistory_concat.1 h
    -- An id that is issued last was not issued before.
    have hlast : ∀ {goal₁ goal₂ : Goal}, .issued id goal₁ ∈ notes → note ≠ .issued id goal₂ := by
      rintro goal₁ goal₂ hmem rfl
      have hle := le_of_issued hnotes hmem
      have hid : id = (issuedIds notes).length + 1 := hnote
      omega
    rcases List.mem_append.1 hgoal with hmem | hmem
    · rcases List.mem_append.1 hgoal' with hmem' | hmem'
      · exact ih hnotes hmem hmem'
      · exact absurd (List.mem_singleton.1 hmem').symm (hlast hmem)
    · rcases List.mem_append.1 hgoal' with hmem' | hmem'
      · exact absurd (List.mem_singleton.1 hmem).symm (hlast hmem')
      · cases (List.mem_singleton.1 hmem).trans (List.mem_singleton.1 hmem').symm
        rfl

/-- A result is the last that is noted of an event. -/
theorem Change.settled_last {s s' : Requests} {new : List Note} (hchange : Change s new s') {id : Nat}
    {r : Except CallError Answer} (h : .settled id r ∈ new) : ∃ others, new = others ++ [.settled id r] := by
  have hone : ∀ {note : Note}, .settled id r ∈ [note] → ∃ others, [note] = others ++ [.settled id r] :=
    fun hmem => ⟨[], by rw [List.mem_singleton.1 hmem, List.nil_append]⟩
  cases hchange with
  | refused goal hcall hclosed hs =>
    obtain ⟨rfl, rfl⟩ : id = s.nextId ∧ r = .error (.closed s.name) := by simpa using h
    exact ⟨[.issued s.nextId goal], rfl⟩
  | idle => cases h
  | goesOn call new hbefore hafter hnew => cases h
  | _ => exact hone h

/-- What is noted behind the result of a request tells nothing more of that request. -/
theorem Outcome.append {name name' : String} {goal : Goal} {id : Nat} {before after : List Note}
    {r : Except CallError Answer} (h : Outcome name goal id before r)
    (hsound : SoundHistory name' (before ++ .settled id r :: after))
    (hanswer : firstAnswer? id (before ++ .settled id r :: after) = firstAnswer? id before) :
    Outcome name goal id (before ++ .settled id r :: after) r := by
  have hmem : ∀ {note : Note}, note.request? = some id → note.settled? = none →
      (note ∈ before ++ .settled id r :: after ↔ note ∈ before) := by
    intro note hrequest hnote
    refine ⟨fun hmem => ?_, List.mem_append_left _⟩
    rcases List.mem_append.1 hmem with hmem | hmem
    · exact hmem
    rcases List.mem_cons.1 hmem with rfl | hmem
    · cases hnote
    · -- The request is over when this is noted.
      obtain ⟨xs, ys, rfl⟩ := List.append_of_mem hmem
      obtain ⟨goal, hunfinished⟩ :=
        (hsound (before ++ .settled id r :: xs) note ⟨ys, by simp⟩).unfinished hrequest
      exact absurd (mem_settledIds.2 ⟨r, by simp⟩) hunfinished.unsettled
  have hsent : .sent id ∈ before ++ .settled id r :: after ↔ .sent id ∈ before := hmem rfl rfl
  have hexpired : .expired id ∈ before ++ .settled id r :: after ↔ .expired id ∈ before := hmem rfl rfl
  cases h with
  | value body hs hintime hbody h =>
    exact .value body (hsent.2 hs) (mt hexpired.1 hintime) (hanswer.trans hbody) h
  | refused body error hs hintime hbody h =>
    exact .refused body error (hsent.2 hs) (mt hexpired.1 hintime) (hanswer.trans hbody) h
  | hungUp hs hintime hnone => exact .hungUp (hsent.2 hs) (mt hexpired.1 hintime) (hanswer.trans hnone)
  | timedOut limit hs he hlimit => exact .timedOut limit (hsent.2 hs) (hexpired.2 he) hlimit
  | closed hunsent => exact .closed (mt hsent.1 hunsent)

/-- What a request came to is told by the whole history. -/
theorem outcome_of_settled (name : String) (level : TraceLevel) (clock : String) (target : Target)
    {events : List Event} {id : Nat} {r : Except CallError Answer}
    (h : .settled id r ∈ (opened name level clock target).history events) :
    ∃ goal, .issued id goal ∈ (opened name level clock target).history events ∧
      Outcome name goal id ((opened name level clock target).history events) r := by
  obtain ⟨before, e, after, rfl, hobserved⟩ := mem_history.1 h
  obtain ⟨others, hothers⟩ := (react_change _ e).settled_last hobserved
  have hupto : (opened name level clock target).history (before ++ [e]) =
      ((opened name level clock target).history before ++ others) ++ [.settled id r] := by
    simp [history_append, history, hothers]
  have hall : (opened name level clock target).history (before ++ e :: after) =
      ((opened name level clock target).history before ++ others) ++ .settled id r ::
        ((opened name level clock target).follow (before ++ [e])).history after := by
    rw [List.append_cons, history_append, hupto, List.append_assoc, List.singleton_append]
  have hsound := (tracks_follow name level clock target (before ++ e :: after)).sound
  rw [hall] at hsound
  obtain ⟨goal, hunfinished, houtcome⟩ := hsound _ (.settled id r) ⟨_, (List.append_cons ..).symm⟩
  rw [show Requests.name _ = name from follow_name (opened name level clock target) _] at houtcome
  have hsettled : id ∈ settledIds ((opened name level clock target).history (before ++ [e])) := by
    rw [hupto, settledIds_concat]
    exact List.mem_append_right _ (List.mem_singleton.2 rfl)
  have hfirst := firstAnswer?_of_settled name level clock target (before ++ [e]) after hsettled
  rw [List.append_assoc, List.singleton_append, hupto, firstAnswer?_concat_of_none _ rfl, hall] at hfirst
  rw [hall]
  exact ⟨goal, List.mem_append_left _ hunfinished.issued, houtcome.append hsound hfirst⟩

end LspClient.Connection
