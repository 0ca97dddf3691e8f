import Mathlib.Data.List.Induction
import LspClient.Proofs.FrameRoundTrip
import LspClient.Proofs.RequestHistory

/-!
# Routing of responses

A response answers a request if it is dispatched while the request's id is registered. Every request that comes
to a result from the server comes to it from the first such response, and from no other. Duplicates, responses
that nobody waits for and responses that come too late answer nothing.

A request is registered from the moment it takes its id. So its first answer may come before its frame is sent, or when
its time is over but it is still registered, or when its call was dropped. Such an answer is lost.
-/

namespace LspClient

/-- The body that a slot holds. -/
def Slot.body? : Slot → Option Json
  | .answered body => some body
  | _ => none

namespace Connection

namespace Note

def issued? : Note → Option Nat
  | .issued id _ => some id
  | _ => none

def settled? : Note → Option Nat
  | .settled id _ => some id
  | _ => none

/-- The body with which a note answers a request: that of a response with its id, dispatched while the id was
registered. -/
def answer? (id : Nat) : Note → Option Json
  | .dispatched message registered =>
    match Incoming.classify message with
    | some (.response id' body) => if id' = id ∧ id ∈ registered then some body else none
    | _ => none
  | _ => none

theorem answer?_eq_some {id : Nat} {note : Note} {body : Json} :
    note.answer? id = some body ↔
      ∃ message registered, note = .dispatched message registered ∧ id ∈ registered ∧
        Incoming.classify message = some (.response id body) := by
  constructor
  · intro h
    cases note with
    | dispatched message registered =>
      simp only [answer?] at h
      split at h
      · rename_i id' body' hclass
        split at h
        · rename_i hid
          obtain ⟨rfl, hmem⟩ := hid
          cases h
          exact ⟨message, registered, rfl, hmem, hclass⟩
        · cases h
      · cases h
    | _ => cases h
  · rintro ⟨message, registered, rfl, hmem, hclass⟩
    simp [answer?, hclass, hmem]

end Note

def issuedIds (notes : List Note) : List Nat :=
  notes.filterMap Note.issued?

def settledIds (notes : List Note) : List Nat :=
  notes.filterMap Note.settled?

/-- The first answer to a request. -/
def firstAnswer? (id : Nat) (notes : List Note) : Option Json :=
  notes.findSome? (Note.answer? id)

@[simp] theorem issuedIds_concat (notes : List Note) (note : Note) :
    issuedIds (notes ++ [note]) = issuedIds notes ++ note.issued?.toList := by
  rw [issuedIds, List.filterMap_append]
  cases h : note.issued? <;> simp [issuedIds, h]

@[simp] theorem settledIds_concat (notes : List Note) (note : Note) :
    settledIds (notes ++ [note]) = settledIds notes ++ note.settled?.toList := by
  rw [settledIds, List.filterMap_append]
  cases h : note.settled? <;> simp [settledIds, h]

theorem firstAnswer?_concat (id : Nat) (notes : List Note) (note : Note) :
    firstAnswer? id (notes ++ [note]) = (firstAnswer? id notes).or (note.answer? id) := by
  simp [firstAnswer?, List.findSome?_append]

theorem firstAnswer?_concat_of_none {id : Nat} (notes : List Note) {note : Note} (h : note.answer? id = none) :
    firstAnswer? id (notes ++ [note]) = firstAnswer? id notes := by
  rw [firstAnswer?_concat, h, Option.or_none]

/-- A request that was issued for a goal and is not over. -/
structure Unfinished (goal : Goal) (id : Nat) (notes : List Note) : Prop where
  issued : .issued id goal ∈ notes
  unsettled : id ∉ settledIds notes
  undropped : .dropped id ∉ notes

/-- What a request comes to, by what was noted of it before: it is answered by the first answer to it if it was sent and
its time was not over before. -/
inductive Outcome (name : String) (goal : Goal) (id : Nat) (notes : List Note) : Except CallError Answer → Prop where
  | value (body : Json) (hsent : .sent id ∈ notes) (hintime : .expired id ∉ notes)
      (hbody : firstAnswer? id notes = some body) (h : body.get? "error" = none) :
      Outcome name goal id notes (.ok (.value ((body.get? "result").getD .null)))
  | refused (body error : Json) (hsent : .sent id ∈ notes) (hintime : .expired id ∉ notes)
      (hbody : firstAnswer? id notes = some body) (h : body.get? "error" = some error) :
      Outcome name goal id notes (.error (refusal (Goal.method goal) error))
  | hungUp (hsent : .sent id ∈ notes) (hintime : .expired id ∉ notes) (hnone : firstAnswer? id notes = none) :
      Outcome name goal id notes (.error (.hungUp name (Goal.method goal)))
  | timedOut (limit : Nat) (hsent : .sent id ∈ notes) (hexpired : .expired id ∈ notes)
      (hlimit : Goal.timeout goal = some limit) :
      Outcome name goal id notes (.error (.timedOut (Goal.method goal) limit))
  | closed (hunsent : .sent id ∉ notes) : Outcome name goal id notes (.error (.closed name))

theorem Outcome.settle (name : String) (goal : Goal) {id : Nat} {notes : List Note} {body : Json}
    (hsent : .sent id ∈ notes) (hintime : .expired id ∉ notes) (hbody : firstAnswer? id notes = some body) :
    Outcome name goal id notes (settle (Goal.method goal) body) := by
  unfold Connection.settle
  split
  · rename_i error h
    exact .refused body error hsent hintime hbody h
  · rename_i h
    exact .value body hsent hintime hbody h

/-- A request succeeds just if it was sent and its first answer came in time and holds no error, and then its value is
the result of that answer. -/
theorem Outcome.ok_iff {name : String} {goal : Goal} {id : Nat} {notes : List Note} {r : Except CallError Answer}
    (h : Outcome name goal id notes r) (value : Answer) :
    r = .ok value ↔ .sent id ∈ notes ∧ .expired id ∉ notes ∧
      ∃ body, firstAnswer? id notes = some body ∧ body.get? "error" = none ∧
        value = .value ((body.get? "result").getD .null) := by
  cases h with
  | value body hsent hintime hbody h => simp [hsent, hintime, hbody, h, eq_comm]
  | refused body error hsent hintime hbody h => simp [hbody, h]
  | hungUp hsent hintime hnone => simp [hnone]
  | timedOut limit hsent hexpired hlimit => simp [hexpired]
  | closed hunsent => simp [hunsent]

/-- A note that may follow other notes. -/
def Note.Sound (name : String) (before : List Note) : Note → Prop
  | .issued id _ => id = (issuedIds before).length + 1
  | .dispatched _ registered =>
    ∀ id ∈ registered, id ≤ (issuedIds before).length ∧ firstAnswer? id before = none
  | .sent id => ∃ goal, Unfinished goal id before
  | .expired id => (∃ goal, Unfinished goal id before) ∧ .sent id ∈ before ∧ firstAnswer? id before = none
  | .settled id r => ∃ goal, Unfinished goal id before ∧ Outcome name goal id before r
  | .dropped id => ∃ goal, Unfinished goal id before
  | .closed => True

/-- The request whose course a note tells. -/
def Note.request? : Note → Option Nat
  | .sent id => some id
  | .expired id => some id
  | .settled id _ => some id
  | .dropped id => some id
  | _ => none

theorem Note.Sound.unfinished {name : String} {before : List Note} {note : Note} (h : note.Sound name before) {id : Nat}
    (hid : note.request? = some id) : ∃ goal, Unfinished goal id before := by
  cases note with
  | issued => cases hid
  | dispatched => cases hid
  | closed => cases hid
  | sent => exact Option.some.inj hid ▸ h
  | expired => exact Option.some.inj hid ▸ h.1
  | settled =>
    obtain ⟨goal, hunfinished, -⟩ := h
    exact ⟨goal, Option.some.inj hid ▸ hunfinished⟩
  | dropped => exact Option.some.inj hid ▸ h

def SoundHistory (name : String) (notes : List Note) : Prop :=
  ∀ before note, before ++ [note] <+: notes → note.Sound name before

theorem soundHistory_concat {name : String} {notes : List Note} {note : Note} :
    SoundHistory name (notes ++ [note]) ↔ SoundHistory name notes ∧ note.Sound name notes := by
  constructor
  · intro h
    exact ⟨fun before x hx => h before x (hx.trans (List.prefix_append _ _)), h notes note (List.prefix_refl _)⟩
  · rintro ⟨hnotes, hnote⟩ before x hx
    rcases List.prefix_concat_iff.1 hx with heq | hx
    · obtain ⟨rfl, hlast⟩ := List.append_inj' heq rfl
      cases hlast
      exact hnote
    · exact hnotes before x hx

section Sound
variable {name : String} {notes : List Note} (h : SoundHistory name notes)
include h

/-- Ids are issued in the order of the numbers. -/
theorem issuedIds_eq_range : issuedIds notes = List.range' 1 (issuedIds notes).length := by
  induction notes using List.reverseRecOn with
  | nil => rfl
  | append_singleton notes note ih =>
    obtain ⟨hnotes, hnote⟩ := soundHistory_concat.1 h
    cases note with
    | issued id goal =>
      have hid : id = (issuedIds notes).length + 1 := hnote
      have hlast : (Note.issued id goal).issued?.toList = [1 + 1 * (issuedIds notes).length] := by
        simp [Note.issued?, hid, Nat.add_comm]
      rw [issuedIds_concat, hlast, List.length_append, List.length_singleton, List.range'_concat, ← ih hnotes]
    | _ => simpa [Note.issued?] using ih hnotes

theorem le_of_issued {id : Nat} {goal : Goal} (hid : .issued id goal ∈ notes) :
    id ≤ (issuedIds notes).length := by
  have hmem : id ∈ issuedIds notes := List.mem_filterMap.2 ⟨_, hid, rfl⟩
  rw [issuedIds_eq_range h, List.mem_range'_1] at hmem
  omega

theorem sound_of_mem {note : Note} (hmem : note ∈ notes) :
    ∃ before, note.Sound name before ∧ (∀ x ∈ before, x ∈ notes) ∧
      (issuedIds before).length ≤ (issuedIds notes).length := by
  obtain ⟨before, after, rfl⟩ := List.append_of_mem hmem
  refine ⟨before, h before note ⟨after, by simp⟩, fun x hx => List.mem_append_left _ hx, ?_⟩
  simp only [issuedIds, List.filterMap_append, List.length_append]
  omega

theorem le_of_firstAnswer? {id : Nat} {body : Json} (hbody : firstAnswer? id notes = some body) :
    id ≤ (issuedIds notes).length := by
  obtain ⟨note, hmem, hnote⟩ := List.exists_of_findSome?_eq_some hbody
  obtain ⟨message, registered, rfl, hid, -⟩ := Note.answer?_eq_some.1 hnote
  obtain ⟨before, hsound, -, hle⟩ := sound_of_mem h hmem
  exact Nat.le_trans (hsound id hid).1 hle

theorem le_of_request {note : Note} (hmem : note ∈ notes) {id : Nat} (hid : note.request? = some id) :
    id ≤ (issuedIds notes).length := by
  obtain ⟨before, hsound, hbefore, -⟩ := sound_of_mem h hmem
  obtain ⟨goal, hunfinished⟩ := hsound.unfinished hid
  exact le_of_issued h (hbefore _ hunfinished.issued)

end Sound

theorem mem_settledIds {notes : List Note} {id : Nat} : id ∈ settledIds notes ↔ ∃ r, .settled id r ∈ notes := by
  constructor
  · intro h
    obtain ⟨note, hmem, hnote⟩ := List.mem_filterMap.1 h
    cases note with
    | settled id' r =>
      cases hnote
      exact ⟨r, hmem⟩
    | _ => cases hnote
  · rintro ⟨r, hmem⟩
    exact List.mem_filterMap.2 ⟨_, hmem, rfl⟩

/-- How far a request has come, by the notes. -/
inductive Standing (goal : Goal) (id : Nat) (notes : List Note) : Stage → Prop where
  | sending (hunsent : .sent id ∉ notes) (hintime : .expired id ∉ notes) : Standing goal id notes (.sending id)
  | waiting (deadline : Option Nat) (hsent : .sent id ∈ notes) (hintime : .expired id ∉ notes) :
      Standing goal id notes (.waiting id deadline)
  | expired (limit : Nat) (hsent : .sent id ∈ notes) (hexpired : .expired id ∈ notes)
      (hlimit : Goal.timeout goal = some limit) : Standing goal id notes (.expired id limit)

/-- What is known of the request that a call waits for. -/
structure InProgress (call : Call) (id : Nat) (notes : List Note) : Prop
    extends Unfinished call.goal id notes where
  slot : firstAnswer? id notes = call.slot.body?
  stands : Standing call.goal id notes call.stage

theorem Unfinished.concat {goal : Goal} {id : Nat} {notes : List Note} (h : Unfinished goal id notes) {note : Note}
    (hsettled : note.settled? ≠ some id) (hdropped : note ≠ .dropped id) : Unfinished goal id (notes ++ [note]) where
  issued := List.mem_append_left _ h.issued
  unsettled := by
    rw [settledIds_concat, List.mem_append, Option.mem_toList]
    rintro (hmem | hmem)
    · exact h.unsettled hmem
    · exact hsettled hmem
  undropped := by
    rw [List.mem_append, List.mem_singleton]
    rintro (hmem | hmem)
    · exact h.undropped hmem
    · exact hdropped hmem.symm

/-- A note that tells of no request's course leaves a request where it stands. -/
theorem Standing.concat {goal : Goal} {id : Nat} {notes : List Note} {stage : Stage} (h : Standing goal id notes stage)
    {note : Note} (hnote : note.request? = none) : Standing goal id (notes ++ [note]) stage := by
  have hmem : ∀ {x : Note}, x.request? ≠ none → (x ∈ notes ++ [note] ↔ x ∈ notes) := by
    intro x hx
    rw [List.mem_append, List.mem_singleton, or_iff_left]
    rintro rfl
    exact hx hnote
  have hsent : .sent id ∈ notes ++ [note] ↔ .sent id ∈ notes := hmem (by simp [Note.request?])
  have hexpired : .expired id ∈ notes ++ [note] ↔ .expired id ∈ notes := hmem (by simp [Note.request?])
  cases h with
  | sending hunsent hintime => exact .sending (mt hsent.1 hunsent) (mt hexpired.1 hintime)
  | waiting deadline hs hintime => exact .waiting deadline (hsent.2 hs) (mt hexpired.1 hintime)
  | expired limit hs he hlimit => exact .expired limit (hsent.2 hs) (hexpired.2 he) hlimit

/-- A result that a call returned for a request is the one that the request came to. -/
def Reported (notes : List Note) (ret : Returned) : Prop :=
  ∀ id, ret.id = some id → ∃ r, .settled id r ∈ notes ∧ .issued id ret.goal ∈ notes ∧
    ret.result = r.mapError (Goal.failure ret.goal)

/-- The requests of a connection stand as the notes say. -/
structure Tracks (s : Requests) (notes : List Note) : Prop where
  sound : SoundHistory s.name notes
  next : s.nextId = (issuedIds notes).length + 1
  pending : ∀ ids, s.pending = some ids → ∀ id ∈ ids, id < s.nextId ∧ firstAnswer? id notes = none
  call : ∀ call, s.call = some call → ∀ id, call.requestId? = some id → InProgress call id notes
  returned : ∀ ret ∈ s.returned, Reported notes ret

theorem Reported.mono {notes more : List Note} {ret : Returned} (h : Reported notes ret) :
    Reported (notes ++ more) ret := by
  intro id hid
  obtain ⟨r, hsettled, hissued, hresult⟩ := h id hid
  exact ⟨r, List.mem_append_left _ hsettled, List.mem_append_left _ hissued, hresult⟩

section Steps
variable {s s' : Requests} {notes : List Note} (h : Tracks s notes)
include h

/-- The next id is not spoken of yet. -/
theorem Tracks.fresh : firstAnswer? s.nextId notes = none ∧ ∀ note ∈ notes, note.request? ≠ some s.nextId := by
  have hnext := h.next
  constructor
  · cases hbody : firstAnswer? s.nextId notes with
    | none => rfl
    | some body =>
      have hle := le_of_firstAnswer? h.sound hbody
      omega
  · intro note hmem hid
    have hle := le_of_request h.sound hmem hid
    omega

theorem Tracks.next_unsettled : s.nextId ∉ settledIds notes := by
  intro hid
  obtain ⟨r, hmem⟩ := mem_settledIds.1 hid
  exact h.fresh.2 _ hmem rfl

/-- The ids that are registered were issued and have no answer yet. -/
theorem Tracks.registered {registered : List Nat} (hregistered : registered = s.pending.getD []) :
    ∀ id ∈ registered, id ≤ (issuedIds notes).length ∧ firstAnswer? id notes = none := by
  intro id hid
  subst hregistered
  cases hp : s.pending with
  | none => simp [hp] at hid
  | some ids =>
    obtain ⟨hlt, hnone⟩ := h.pending ids hp id (by simpa [hp] using hid)
    have hnext := h.next
    exact ⟨by omega, hnone⟩

theorem Tracks.issue (goal : Goal) :
    Tracks
      { s with
        nextId := s.nextId + 1
        pending := s.pending.map (· ++ [s.nextId])
        call := some ⟨goal, .sending s.nextId, .empty⟩ }
      (notes ++ [.issued s.nextId goal]) where
  sound := soundHistory_concat.2 ⟨h.sound, h.next⟩
  next := by
    simp [Note.issued?, h.next]
  pending := by
    intro ids hids id hid
    obtain ⟨old, hold, rfl⟩ := Option.map_eq_some_iff.1 hids
    rw [firstAnswer?_concat_of_none _ rfl]
    rcases List.mem_append.1 hid with hid | hid
    · obtain ⟨hlt, hnone⟩ := h.pending old hold id hid
      exact ⟨Nat.lt_succ_of_lt hlt, hnone⟩
    · cases List.mem_singleton.1 hid
      exact ⟨Nat.lt_succ_self _, h.fresh.1⟩
  call := by
    intro call hcall id hid
    cases hcall
    cases hid
    have huntold : ∀ {note : Note}, note.request? = some s.nextId → note ∉ notes ++ [.issued s.nextId goal] := by
      intro note hnote hmem
      rcases List.mem_append.1 hmem with hmem | hmem
      · exact h.fresh.2 note hmem hnote
      · cases List.mem_singleton.1 hmem
        cases hnote
    exact
      { issued := by simp
        unsettled := by simpa [Note.settled?] using h.next_unsettled
        undropped := huntold rfl
        slot := by rw [firstAnswer?_concat_of_none _ rfl, h.fresh.1]; rfl
        stands := .sending (huntold rfl) (huntold rfl) }
  returned := fun ret hret => (h.returned ret hret).mono

/-- A request comes to its result: `pending` and `call` are what is left when it does. -/
theorem Tracks.settle {call : Call} {id : Nat} (hcall : s.call = some call) (hid : call.requestId? = some id)
    {r : Except CallError Answer} (hr : Outcome s.name call.goal id notes r)
    (pending : Option (List Nat))
    (hpending : ∀ ids, pending = some ids → ∃ old, s.pending = some old ∧ ∀ id ∈ ids, id ∈ old)
    (left : Option Call) {shown : Option Nat} (hshown : ∀ i, shown = some i → i = id)
    (hs : Concludes call.goal shown r { s with pending := pending, call := left } s') :
    Tracks s' (notes ++ [.settled id r]) := by
  have hprogress := h.call call hcall id hid
  have hsound : SoundHistory s.name (notes ++ [.settled id r]) :=
    soundHistory_concat.2 ⟨h.sound, call.goal, hprogress.toUnfinished, hr⟩
  have hnext : s.nextId = (issuedIds (notes ++ [.settled id r])).length + 1 := by
    simp [Note.issued?, h.next]
  have hwaiting : ∀ ids, pending = some ids → ∀ i ∈ ids,
      i < s.nextId ∧ firstAnswer? i (notes ++ [.settled id r]) = none := by
    intro ids hids i hi
    obtain ⟨old, hold, hsub⟩ := hpending ids hids
    rw [firstAnswer?_concat_of_none _ rfl]
    exact h.pending old hold i (hsub i hi)
  cases hs with
  | returns =>
    refine ⟨hsound, hnext, hwaiting, by simp, ?_⟩
    intro ret hret
    rcases List.mem_append.1 hret with hret | hret
    · exact (h.returned ret hret).mono
    · cases List.mem_singleton.1 hret
      intro i hi
      cases hshown i hi
      exact ⟨r, by simp, List.mem_append_left _ hprogress.issued, rfl⟩
  | notifies slot =>
    refine ⟨hsound, hnext, hwaiting, ?_, fun ret hret => (h.returned ret hret).mono⟩
    intro call' hcall' i hi
    cases hcall'
    cases hi

/-- One more note, which issues nothing, settles nothing and answers nothing. -/
theorem Tracks.concat (note : Note) (hsound : note.Sound s.name notes) (hissued : note.issued? = none)
    (hanswer : ∀ id, note.answer? id = none)
    (hkeep : ∀ call, s.call = some call → ∀ id, call.requestId? = some id → InProgress call id notes →
      InProgress call id (notes ++ [note])) :
    Tracks s (notes ++ [note]) where
  sound := soundHistory_concat.2 ⟨h.sound, hsound⟩
  next := by simp [hissued, h.next]
  pending := by
    intro ids hids id hid
    rw [firstAnswer?_concat_of_none _ (hanswer id)]
    exact h.pending ids hids id hid
  call := fun call hcall id hid => hkeep call hcall id hid (h.call call hcall id hid)
  returned := fun ret hret => (h.returned ret hret).mono

/-- A note that tells of no request's course. -/
theorem Tracks.remark (note : Note) (hsound : note.Sound s.name notes) (hissued : note.issued? = none)
    (hrequest : note.request? = none) (hanswer : ∀ id, note.answer? id = none) : Tracks s (notes ++ [note]) := by
  refine h.concat note hsound hissued hanswer fun call _ id _ hprogress => ?_
  have hsettled : note.settled? ≠ some id := by cases note <;> simp_all [Note.settled?, Note.request?]
  have hdropped : note ≠ .dropped id := by rintro rfl; cases hrequest
  exact
    { hprogress.toUnfinished.concat hsettled hdropped with
      slot := by rw [firstAnswer?_concat_of_none _ (hanswer id), hprogress.slot]
      stands := hprogress.stands.concat hrequest }

/-- The call turns to something else. -/
theorem Tracks.turnTo (call : Option Call)
    (hcall : ∀ call', call = some call' → ∀ id, call'.requestId? = some id → InProgress call' id notes) :
    Tracks { s with call := call } notes :=
  { h with call := hcall }

/-- The request goes on to another stage, and that is noted. -/
theorem Tracks.onwards {call : Call} {id : Nat} (hcall : s.call = some call) (hid : call.requestId? = some id)
    (stage : Stage) (hid' : Call.requestId? { call with stage := stage } = some id) (note : Note)
    (hsound : note.Sound s.name notes) (hissued : note.issued? = none) (hsettled : note.settled? ≠ some id)
    (hdropped : note ≠ .dropped id) (hanswer : ∀ id, note.answer? id = none)
    (hstands : Standing call.goal id (notes ++ [note]) stage) :
    Tracks { s with call := some { call with stage := stage } } (notes ++ [note]) := by
  have hprogress := h.call call hcall id hid
  have hnoted : Tracks { s with call := none } (notes ++ [note]) :=
    (h.turnTo none (by simp)).concat note hsound hissued hanswer (by simp)
  refine hnoted.turnTo (some { call with stage := stage }) fun call' heq i hi => ?_
  cases heq
  cases hid'.symm.trans hi
  refine { hprogress.toUnfinished.concat hsettled hdropped with slot := ?_, stands := hstands }
  rw [firstAnswer?_concat_of_none _ (hanswer id), hprogress.slot]

theorem Tracks.deliver {message body : Json} {id : Nat} {ids : List Nat} (hopen : s.pending = some ids)
    (hid : id ∈ ids) (hclass : Incoming.classify message = some (.response id body)) :
    Tracks ((s.forget id).hand [id] (.answered body)) (notes ++ [.dispatched message ids]) := by
  have hself : (Note.dispatched message ids).answer? id = some body :=
    Note.answer?_eq_some.2 ⟨message, ids, rfl, hid, hclass⟩
  have hother : ∀ i, i ≠ id → (Note.dispatched message ids).answer? i = none := by
    intro i hi
    simp [Note.answer?, hclass, Ne.symm hi]
  refine
    { sound := soundHistory_concat.2 ⟨h.sound, h.registered (by simp [hopen])⟩
      next := by simp [Note.issued?, Requests.hand, Requests.forget, h.next]
      pending := ?_
      call := ?_
      returned := fun ret hret => (h.returned ret hret).mono }
  · intro left hleft i hi
    -- What stays registered is some other id.
    obtain ⟨old, hold, hsub⟩ := Requests.of_forget_pending hleft
    obtain ⟨hmem, hne⟩ := hsub i hi
    rw [firstAnswer?_concat_of_none _ (hother i hne)]
    exact h.pending old hold i hmem
  · intro call' hcall' i hi
    obtain ⟨call, hcall, rfl⟩ := Option.map_eq_some_iff.1 hcall'
    rw [Call.hand_requestId?] at hi
    have hprogress := h.call call hcall i hi
    refine
      { hprogress.toUnfinished.concat (by simp [Note.settled?]) (by simp) with
        slot := ?_
        stands := hprogress.stands.concat rfl }
    rw [Call.hand_slot hi, firstAnswer?_concat]
    by_cases hne : i = id
    · -- The id was registered, so this answer is its first.
      subst hne
      rw [(h.pending ids hopen i hid).2, hself]
      simp [Slot.body?]
    · rw [hother i hne, hprogress.slot, if_neg (by simpa using hne), Option.or_none]

theorem Tracks.close : Tracks { s.hand (s.pending.getD []) .lost with pending := none } notes := by
  refine { sound := h.sound, next := h.next, pending := by simp, call := ?_, returned := h.returned }
  intro call' hcall' id hid
  obtain ⟨call, hcall, rfl⟩ := Option.map_eq_some_iff.1 hcall'
  rw [Call.hand_requestId?] at hid
  have hprogress := h.call call hcall id hid
  refine { hprogress.toUnfinished with slot := ?_, stands := hprogress.stands }
  rw [Call.hand_slot hid]
  split
  · rename_i hmem
    exact (h.registered rfl id hmem).2
  · exact hprogress.slot

/-- A call changes otherwise than by its request. -/
theorem Tracks.goOn (call : Option Call) (hcall : call.bind Call.requestId? = none) (new : List Returned)
    (hnew : ∀ ret ∈ new, ret.id = none) :
    Tracks { s with call := call, returned := s.returned ++ new } notes where
  sound := h.sound
  next := h.next
  pending := h.pending
  call := by
    intro call' hcall' id hid
    cases hcall'
    rw [Option.bind_some, hid] at hcall
    cases hcall
  returned := by
    intro ret hret
    rcases List.mem_append.1 hret with hret | hret
    · exact h.returned ret hret
    · intro id hid
      rw [hnew ret hret] at hid
      cases hid

/-- What one event does to the requests is what the notes of it say. -/
theorem Tracks.step {new : List Note} (hchange : Change s new s') : Tracks s' (notes ++ new) := by
  have hself : ∀ ids, s.pending = some ids → ∃ old, s.pending = some old ∧ ∀ id ∈ ids, id ∈ old :=
    fun ids hids => ⟨ids, hids, fun _ hid => hid⟩
  have hforget : ∀ id ids, (s.forget id).pending = some ids →
      ∃ old, s.pending = some old ∧ ∀ id ∈ ids, id ∈ old := by
    intro id ids hids
    obtain ⟨old, hold, hsub⟩ := Requests.of_forget_pending hids
    exact ⟨old, hold, fun i hi => (hsub i hi).1⟩
  have hshown : ∀ id i : Nat, some id = some i → i = id := fun id i hi => (Option.some.inj hi).symm
  cases hchange with
  | idle => rwa [List.append_nil]
  | begins goal ids hcall hopen =>
    have hissued := h.issue goal
    rwa [hopen] at hissued
  | refused goal hcall hclosed hs =>
    have hissued := h.issue goal
    cases (hissued.call _ rfl _ rfl).stands with
    | sending hunsent hintime =>
      have hsettled := hissued.settle rfl rfl (.closed hunsent) s.pending (by simp [hclosed]) s.call (by simp) hs
      rwa [List.append_assoc] at hsettled
  | delivers message body id ids hopen hid hclass => exact h.deliver hopen hid hclass
  | ignores message hignored =>
    refine h.remark _ (h.registered rfl) rfl rfl fun id => ?_
    rw [Option.eq_none_iff_forall_ne_some]
    intro body hbody
    obtain ⟨message, registered, heq, hid, hclass⟩ := Note.answer?_eq_some.1 hbody
    cases heq
    cases hp : s.pending with
    | none => simp [hp] at hid
    | some ids => exact hignored ids id body hp hclass (by simpa [hp] using hid)
  | closes => exact h.close.remark .closed trivial rfl rfl fun _ => rfl
  | sends call id deadline hcall hstage =>
    have hid := Call.requestId?_of_sending hstage
    obtain ⟨hunfinished, -, hstands⟩ := h.call call hcall id hid
    rw [hstage] at hstands
    cases hstands with
    | sending hunsent hintime =>
      refine h.onwards hcall hid (.waiting id deadline) rfl (.sent id) ⟨call.goal, hunfinished⟩ rfl
        (by simp [Note.settled?]) (by simp) (fun _ => rfl) ?_
      exact .waiting deadline (by simp) (by simpa using hintime)
  | abandoned call id hcall hstage hs =>
    have hid := Call.requestId?_of_sending hstage
    have hstands := (h.call call hcall id hid).stands
    rw [hstage] at hstands
    cases hstands with
    | sending hunsent hintime => exact h.settle hcall hid (.closed hunsent) _ (hforget id) _ (hshown id) hs
  | answered call id deadline body hcall hstage hslot hs =>
    have hid := Call.requestId?_of_waiting hstage
    obtain ⟨hunfinished, hbody, hstands⟩ := h.call call hcall id hid
    rw [hslot] at hbody
    rw [hstage] at hstands
    cases hstands with
    | waiting _ hsent hintime =>
      exact h.settle hcall hid (.settle s.name call.goal hsent hintime hbody) _ hself _ (hshown id) hs
  | hungUp call id deadline hcall hstage hslot hs =>
    have hid := Call.requestId?_of_waiting hstage
    obtain ⟨hunfinished, hnone, hstands⟩ := h.call call hcall id hid
    rw [hslot] at hnone
    rw [hstage] at hstands
    cases hstands with
    | waiting _ hsent hintime => exact h.settle hcall hid (.hungUp hsent hintime hnone) _ hself _ (hshown id) hs
  | expires call id limit deadline hcall hstage hslot hlimit =>
    have hid := Call.requestId?_of_waiting hstage
    obtain ⟨hunfinished, hnone, hstands⟩ := h.call call hcall id hid
    rw [hslot] at hnone
    rw [hstage] at hstands
    cases hstands with
    | waiting _ hsent hintime =>
      refine h.onwards hcall hid (.expired id limit) rfl (.expired id) ⟨⟨call.goal, hunfinished⟩, hsent, hnone⟩ rfl
        (by simp [Note.settled?]) (by simp) (fun _ => rfl) ?_
      exact .expired limit (by simpa using hsent) (by simp) hlimit
  | timedOut call id limit hcall hstage hs =>
    have hid := Call.requestId?_of_expired hstage
    have hstands := (h.call call hcall id hid).stands
    rw [hstage] at hstands
    cases hstands with
    | expired _ hsent hexpired hlimit =>
      exact h.settle hcall hid (.timedOut limit hsent hexpired hlimit) _ (hforget id) _ (hshown id) hs
  | goesOn call new hbefore hafter hnew =>
    rw [List.append_nil]
    exact h.goOn call hafter new hnew
  | drops id hid =>
    obtain ⟨call, hcall, hid⟩ := Option.bind_eq_some_iff.1 hid
    have hunfinished := (h.call call hcall id hid).toUnfinished
    exact (h.turnTo none (by simp)).concat (.dropped id) ⟨call.goal, hunfinished⟩ rfl (fun _ => rfl) (by simp)

end Steps

theorem Tracks.takesUp {s s' : Requests} {notes new : List Note} (h : Tracks s notes) (hchange : Change s new s')
    {id : Nat} {r : Except CallError Answer} (hsettled : .settled id r ∈ new) :
    ∃ goal, .issued id goal ∈ notes ++ new ∧ TakesUp s' goal r := by
  have hcurrent : ∀ {call : Call} {i : Nat}, s.call = some call → call.requestId? = some i →
      .issued i call.goal ∈ notes ++ new :=
    fun hcall hi => List.mem_append_left _ (h.call _ hcall _ hi).issued
  cases hchange with
  | refused goal hcall hclosed hs =>
    obtain ⟨rfl, rfl⟩ : id = s.nextId ∧ r = .error (.closed s.name) := by simpa using hsettled
    exact ⟨goal, by simp, hs.takesUp⟩
  | abandoned call i hcall hstage hs =>
    cases List.mem_singleton.1 hsettled
    exact ⟨call.goal, hcurrent hcall (Call.requestId?_of_sending hstage), hs.takesUp⟩
  | answered call i deadline body hcall hstage hslot hs =>
    cases List.mem_singleton.1 hsettled
    exact ⟨call.goal, hcurrent hcall (Call.requestId?_of_waiting hstage), hs.takesUp⟩
  | hungUp call i deadline hcall hstage hslot hs =>
    cases List.mem_singleton.1 hsettled
    exact ⟨call.goal, hcurrent hcall (Call.requestId?_of_waiting hstage), hs.takesUp⟩
  | timedOut call i limit hcall hstage hs =>
    cases List.mem_singleton.1 hsettled
    exact ⟨call.goal, hcurrent hcall (Call.requestId?_of_expired hstage), hs.takesUp⟩
  | _ => simp at hsettled

theorem tracks_follow (name : String) (level : TraceLevel) (clock : String) (target : Target)
    (events : List Event) :
    Tracks ((opened name level clock target).follow events).requests
      ((opened name level clock target).history events) := by
  have hopened : Tracks (opened name level clock target).requests [] := by
    refine ⟨?_, rfl, ?_, ?_, ?_⟩
    · intro before note hprefix
      simp at hprefix
    · intro ids hids id hid
      cases hids
      cases hid
    · intro call hcall
      cases hcall
    · intro ret hret
      cases hret
  exact follow_invariant (fun h hchange => h.step hchange) events [] hopened

/-- A note answers an id that is issued and has no answer yet, and no other id. -/
theorem answer_unique {name : String} {notes before : List Note} (h : SoundHistory name notes) {note : Note}
    (hnote : before ++ [note] <+: notes) {id : Nat} {body : Json} (hanswer : note.answer? id = some body) :
    id ≤ (issuedIds before).length ∧ firstAnswer? id before = none ∧
      ∀ i, (note.answer? i).isSome → i = id := by
  obtain ⟨message, registered, rfl, hid, hclass⟩ := Note.answer?_eq_some.1 hanswer
  obtain ⟨hissued, hnone⟩ := h before _ hnote id hid
  refine ⟨hissued, hnone, fun i hi => ?_⟩
  obtain ⟨body', hbody'⟩ := Option.isSome_iff_exists.1 hi
  obtain ⟨_, _, heq, -, hclass'⟩ := Note.answer?_eq_some.1 hbody'
  cases heq
  rw [hclass] at hclass'
  cases hclass'
  rfl

theorem issued_of_start {c : Connection} {goal : Goal} (hgoal : goal.makesRequest) (hcall : c.call = none)
    (hused : c.usedUp = false) : .issued c.nextId goal ∈ c.observe (.start goal) := by
  have hnext : c.next? (.start goal) = some (c.beginRequest goal) := by
    rw [next?, start_request hgoal hcall hused]
    rfl
  rw [observe, (step_of_next? hnext).seen_eq, notes, if_pos hgoal]
  exact List.mem_cons_self

/-- A request that waits takes its answer with the next step of the call. -/
theorem observe_call_of_answer {c : Connection} {notes : List Note} (h : Tracks c.requests notes) {goal : Goal}
    {id : Nat} {deadline : Option Nat} {slot : Slot} (hcall : c.call = some ⟨goal, .waiting id deadline, slot⟩)
    {body : Json} (hbody : firstAnswer? id notes = some body) :
    c.observe .call = [.settled id (settle (Goal.method goal) body)] := by
  have hslot := (h.call _ hcall id rfl).slot
  rw [hbody] at hslot
  cases slot with
  | answered body' =>
    cases hslot
    rw [observe, (Step.settle goal id deadline body hcall).seen_eq]
    simp only [Connection.notes, hcall]
  | empty => cases hslot
  | lost => cases hslot

/-- In every run the ids 1, 2, 3, … are issued in turn. A request comes to one result at most. Which one it is, is told
by the first response with its id that came while the id was registered, if the request was sent and its time was not
over before: it succeeds with the result of that response just if the response holds no error. Time is over only for a
request that was sent and has no answer. Each response answers one request at most, and each request is answered once
at most. What a request comes to is what its call goes on with. -/
theorem responses_routed (name : String) (level : TraceLevel) (clock : String) (target : Target)
    (events : List Event) :
    let c := opened name level clock target
    let notes := c.history events
    issuedIds notes = List.range' 1 ((c.follow events).nextId - 1) ∧
    (∀ before id r, before ++ [.settled id r] <+: notes →
      ∃ goal, Unfinished goal id before ∧ Outcome name goal id before r ∧
        ∀ value, r = .ok value ↔ .sent id ∈ before ∧ .expired id ∉ before ∧
          ∃ body, firstAnswer? id before = some body ∧ body.get? "error" = none ∧
            value = .value ((body.get? "result").getD .null)) ∧
    (∀ before id, before ++ [.expired id] <+: notes → .sent id ∈ before ∧ firstAnswer? id before = none) ∧
    (∀ before note id body, before ++ [note] <+: notes → note.answer? id = some body →
      id ≤ (issuedIds before).length ∧ firstAnswer? id before = none ∧
        ∀ i, (note.answer? i).isSome → i = id) ∧
    (∀ goal, goal.makesRequest → (c.follow events).call = none → (c.follow events).usedUp = false →
      .issued (c.follow events).nextId goal ∈ (c.follow events).observe (.start goal)) ∧
    (∀ goal id deadline slot body, (c.follow events).call = some ⟨goal, .waiting id deadline, slot⟩ →
      firstAnswer? id notes = some body →
        (c.follow events).observe .call = [.settled id (settle (Goal.method goal) body)]) ∧
    (∀ before e after, events = before ++ e :: after →
      ∀ id r, .settled id r ∈ (c.follow before).observe e →
        ∃ goal, .issued id goal ∈ notes ∧ TakesUp (c.follow (before ++ [e])).requests goal r) ∧
    ∀ ret ∈ (c.follow events).returned, Reported notes ret := by
  intro c notes
  have htracks : ∀ run, Tracks (c.follow run).requests (c.history run) :=
    tracks_follow name level clock target
  have hsound : SoundHistory name notes := by
    have h := (htracks events).sound
    rwa [show (c.follow events).requests.name = name from follow_name c events] at h
  refine ⟨?_, ?_, ?_, ?_, ?_, ?_, ?_, (htracks events).returned⟩
  · have hnext : (c.follow events).nextId = (issuedIds notes).length + 1 := (htracks events).next
    rw [hnext, Nat.add_sub_cancel]
    exact issuedIds_eq_range hsound
  · intro before id r hsettled
    obtain ⟨goal, hunfinished, houtcome⟩ := hsound before (.settled id r) hsettled
    exact ⟨goal, hunfinished, houtcome, houtcome.ok_iff⟩
  · intro before id hexpired
    exact (hsound before (.expired id) hexpired).2
  · intro before note id body hnote hanswer
    exact answer_unique hsound hnote hanswer
  · intro goal hgoal hcall hused
    exact issued_of_start hgoal hcall hused
  · intro goal id deadline slot body hcall hbody
    exact observe_call_of_answer (htracks events) hcall hbody
  · intro before e after hevents id r hsettled
    obtain ⟨goal, hissued, htakes⟩ := (htracks before).takesUp (react_change _ e) hsettled
    refine ⟨goal, ?_, ?_⟩
    · have hnotes : notes = (c.history before ++ (c.follow before).observe e) ++
          ((c.follow before).react e).history after := by
        simp only [notes, hevents, history_append, history, List.append_assoc]
      rw [hnotes]
      exact List.mem_append_left _ hissued
    · rwa [follow_append, follow_cons, follow_nil]

theorem history_response {c : Connection} {v body : Json} {rest : Bytes} {id : Nat} (hreader : c.reader = .reading)
    (hread : Frame.readFrom c.inboxEnded c.inbox = some (.message v, rest))
    (hclass : Incoming.classify v = some (.response id body)) (later : List Event) :
    c.history (.reader :: later) =
      .dispatched v (c.pending.getD []) ::
        (({ c with inbox := rest }.addEntry .receive v).deliver id body).history later := by
  have hstep := Step.response v rest id body hreader hread hclass
  have hnotes : c.notes .reader = [.dispatched v (c.pending.getD [])] := by simp [notes, hreader, hread]
  rw [history, observe, hstep.seen_eq, hnotes, react, hstep.next?_eq]
  rfl

/-- A response, as it stands in a frame. -/
def smallResponse : Bytes :=
  Bytes.ofString "\x7b\"id\":1,\"result\":0\x7d"

theorem readFrom_smallResponse : Frame.readFrom false (Frame.ofBody smallResponse) =
    some (.message (.obj [("id", .ofNat 1), ("result", .ofNat 0)]), []) := by
  have htokens : (Utf8.decode? smallResponse).bind Json.Token.lex? =
      some [.openObject, .string ("id".toList.map .char), .colon, .number ⟨false, ['1'], none, none⟩, .comma,
        .string ("result".toList.map .char), .colon, .number ⟨false, ['0'], none, none⟩, .closeObject] := by
    decide +kernel
  exact Frame.readFrom_of_tokens false (by decide) htokens rfl

/-- The requests that failed, and why. -/
def failures (notes : List Note) : List (Nat × CallError) :=
  notes.filterMap fun
    | .settled id (.error e) => some (id, e)
    | _ => none

/-- The first answer to a request holds no error and comes while the request is registered, and still the request does
not succeed: its time is over, or it is not sent yet and the writer fails, or its call was dropped. -/
theorem first_answer_lost :
    let answer : Json := .obj [("id", .ofNat 1), ("result", .ofNat 0)]
    let ask := Goal.request "m" none (some 0)
    let arrives := Event.receive (Frame.ofBody smallResponse)
    let late := (opened "s" .off "12:00:00" {}).history [.start ask, .call, .call, arrives, .reader, .call]
    let unsent := (opened "s" .off "12:00:00" { room := some 0 }).history
      [.start (.notify "m" none), .call, .writer, .start ask, arrives, .reader, .writer, .call]
    let dropped := (opened "s" .off "12:00:00" {}).history [.start ask, .call, .cancel, arrives, .reader]
    answer.get? "error" = none ∧
    (firstAnswer? 1 late = some answer ∧ failures late = [(1, .timedOut "m" 0)]) ∧
    (firstAnswer? 1 unsent = some answer ∧ failures unsent = [(1, .closed "s")]) ∧
    (firstAnswer? 1 dropped = some answer ∧ settledIds dropped = []) := by
  intro answer ask arrives late unsent dropped
  have hlate := history_response (c := (opened "s" .off "12:00:00" {}).follow [.start ask, .call, .call, arrives])
    rfl readFrom_smallResponse rfl [.call]
  have hunsent := history_response
    (c := (opened "s" .off "12:00:00" { room := some 0 }).follow
      [.start (.notify "m" none), .call, .writer, .start ask, arrives]) rfl readFrom_smallResponse rfl [.writer, .call]
  have hdropped := history_response (c := (opened "s" .off "12:00:00" {}).follow [.start ask, .call, .cancel, arrives])
    rfl readFrom_smallResponse rfl []
  refine ⟨rfl, ?_, ?_, ?_⟩
  · rw [show late = _ from history_append _ [.start ask, .call, .call, arrives] _, hlate]
    exact ⟨rfl, by decide +kernel⟩
  · rw [show unsent = _ from
      history_append _ [.start (.notify "m" none), .call, .writer, .start ask, arrives] _, hunsent]
    exact ⟨rfl, by decide +kernel⟩
  · rw [show dropped = _ from history_append _ [.start ask, .call, .cancel, arrives] _, hdropped]
    exact ⟨rfl, by decide +kernel⟩

end Connection

end LspClient
