import LspClient.Proofs.WriterOutput

/-!
# A writer that cannot go on

The writer hands a frame over as far as the server lets it pass. Turns of the writer make room in the channel, or bring
the frame that is under way nearer to its end, or find that nothing passes. Whoever waits for the writer in rounds, each
of which gives the writer its turns and then whoever waits, waits for ever only if the writer stands from some round on
at the same bytes.
-/

namespace LspClient

/-! ## The channel -/

namespace Channel

/-- No more commands are taken than were put in, and no more wait than may. -/
structure Regular (c : Channel) : Prop where
  taken : c.taken ≤ c.accepted.length
  fits : c.accepted.length ≤ c.taken + capacity

theorem isFull_eq_false_iff {c : Channel} : c.isFull = false ↔ c.accepted.length - c.taken < capacity := by
  rw [isFull, decide_eq_false_iff_not, Nat.not_le]

theorem exists_next? {c : Channel} (h : c.isFull = true) : ∃ command, c.next? = some command := by
  have hlt : c.taken < c.accepted.length := by
    have hle : capacity ≤ c.accepted.length - c.taken := of_decide_eq_true h
    simp only [capacity] at hle
    omega
  exact ⟨_, List.getElem?_eq_getElem hlt⟩

theorem Regular.take {c : Channel} {command : Command} (h : c.Regular) (hnext : c.next? = some command) :
    c.take.Regular := by
  refine ⟨taken_lt hnext, ?_⟩
  have hfits := h.fits
  simp only [Channel.take]
  omega

theorem Regular.isFull_of_taken_lt {c c' : Channel} (h : c.Regular) (haccepted : c'.accepted = c.accepted)
    (htaken : c.taken < c'.taken) : c'.isFull = false := by
  have hfits := h.fits
  rw [isFull_eq_false_iff, haccepted]
  simp only [capacity] at hfits ⊢
  omega

theorem Regular.pushAll {c : Channel} {commands : List Command} (h : c.Regular) (hlen : commands.length ≤ 1)
    (hroom : commands ≠ [] → c.isFull = false) : (c.pushAll commands).Regular := by
  cases commands with
  | nil => rwa [pushAll_nil]
  | cons command rest =>
    have hfull := isFull_eq_false_iff.1 (hroom (List.cons_ne_nil command rest))
    have htaken := h.taken
    constructor
    · simp only [Channel.pushAll, List.length_append]
      omega
    · simp only [Channel.pushAll, List.length_append]
      omega

end Channel

theorem Target.length_lt_of_put {t t' : Target} {bytes rest : Bytes} (h : t.put bytes = (t', .ok rest))
    (hwindow : t.window ≠ some 0) (hrest : rest ≠ []) : rest.length < bytes.length := by
  obtain ⟨hdrop, -, -⟩ := taken_of_put h
  have hpositive : 0 < rest.length := List.length_pos_iff.2 hrest
  have hpasses : t.passing bytes = bytes.length ∨ 0 < t.passing bytes := by
    unfold passing
    split
    · exact .inl rfl
    · rename_i n hn
      have hn' : n ≠ 0 := fun hzero => hwindow (hzero ▸ hn)
      omega
  rw [hdrop, List.length_drop] at hpositive ⊢
  omega

/-- What is still to be done for the frame that is under way. -/
def WriterState.due : WriterState → Nat
  | .sending rest => rest.length + 1
  | _ => 0

namespace Connection

theorem queued_fits (c : Connection) (e : Event) :
    (c.queued e).length ≤ 1 ∧ (c.queued e ≠ [] → c.channel.isFull = false) := by
  unfold queued seen entering
  split
  · split
    · simp
    · split <;> simp_all
  · simp

theorem Move.regular {o o' : Outgoing} {commands : List Command} {lines : List Tracing} (h : Move o commands lines o')
    (hlen : commands.length ≤ 1) (hroom : commands ≠ [] → o.channel.isFull = false) (hregular : o.channel.Regular) :
    o'.channel.Regular := by
  cases h with
  | adds commands lines hlines => exact hregular.pushAll hlen hroom
  | breaks failure => exact hregular
  | drains n => exact hregular
  | takes frame hwriter hnext => exact hregular.take hnext
  | passes bytes rest target hwriter hwindow hput => exact hregular
  | fails bytes target e hwriter hwindow hput => exact hregular.pushAll (Nat.zero_le 1) fun h => absurd rfl h
  | ends hwriter hnext => exact hregular.take hnext

theorem follow_regular (events : List Event) {c : Connection} (h : c.channel.Regular) :
    (c.follow events).channel.Regular := by
  refine follow_keeps (P := (·.channel.Regular)) (fun e _ r hr => ?_) h
  obtain ⟨hlen, hroom⟩ := queued_fits r e
  exact (react_move r e).regular hlen hroom hr

/-! ## Turns of the writer -/

/-- The writer has a frame under way, and the server lets nothing pass. -/
structure Stalled (c : Connection) (rest : Bytes) : Prop where
  writer : c.writer = .sending rest
  window : c.target.window = some 0

theorem Stalled.react {c : Connection} {rest : Bytes} (h : c.Stalled rest) : c.react .writer = c := by
  simp [Connection.react, next?, writerStep, h.writer, h.window]

/-- Whether an event may open the way for a writer that is stalled. -/
def Event.mayFree : Event → Bool
  | .drain n => n != 0
  | .closeOutput _ => true
  | _ => false

theorem Stalled.step {c : Connection} {rest : Bytes} (h : c.Stalled rest) {e : Event} (he : e.mayFree = false) :
    (c.react e).Stalled rest := by
  rcases react_cases c e with ⟨-, hstays⟩ | hstep
  · rwa [hstays]
  · generalize c.react e = c' at hstep
    cases hstep with
    | take frame hwriter => cases hwriter.symm.trans h.writer
    | pass bytes rest target hwriter hwindow => exact absurd h.window hwindow
    | breakOff bytes target e hwriter hwindow => exact absurd h.window hwindow
    | stop hwriter => cases hwriter.symm.trans h.writer
    | closeOutput => cases he
    | drain n =>
      have hzero : n = 0 := by simpa [Event.mayFree] using he
      refine ⟨h.writer, ?_⟩
      simp [Connection.drain, Target.drain, h.window, hzero]
    | _ => exact ⟨h.writer, h.window⟩

theorem Stalled.follow {c : Connection} {rest : Bytes} (h : c.Stalled rest) {events : List Event}
    (hevents : ∀ e ∈ events, e.mayFree = false) : (c.follow events).Stalled rest :=
  follow_keeps (P := (·.Stalled rest)) (fun e he _ h => h.step (hevents e he)) h

/-- A connection to a server that never reads: the writer has a notification under way, and as many more wait as may. -/
@[irreducible] def clogged : Connection :=
  (opened "asp-lsp" .off "12:00:00" { window := some 0 }).follow
    ([.start (.notify "m" none), .call, .writer] ++ (List.replicate 64 [.start (.notify "m" none), .call]).flatten)

theorem clogged_full : clogged.channel.isFull = true := by decide +kernel

theorem clogged_stalled : clogged.Stalled (Frame.encode (Message.notification "m" none)) :=
  ⟨by decide +kernel, by decide +kernel⟩

theorem clogged_call : clogged.call = none :=
  Option.isNone_iff_eq_none.1 (by decide +kernel)

/-- A server that lets everything pass goes on doing so. -/
theorem Move.window_none {o o' : Outgoing} {commands : List Command} {lines : List Tracing}
    (h : Move o commands lines o') (hwindow : o.target.window = none) : o'.target.window = none := by
  cases h with
  | adds commands lines hlines => exact hwindow
  | breaks failure => rfl
  | drains n => simp [Target.drain, hwindow]
  | takes frame hwriter hnext => exact hwindow
  | passes bytes rest target hwriter _ hput => simp [(Target.taken_of_put hput).2.2, hwindow]
  | fails bytes target e hwriter _ hput => simp [(Target.taken_of_put_error hput).2.1, hwindow]
  | ends hwriter hnext => exact hwindow

theorem follow_window_none (events : List Event) {c : Connection} (h : c.target.window = none) :
    (c.follow events).target.window = none :=
  follow_keeps (P := (·.target.window = none)) (fun e _ r hr => (react_move r e).window_none hr) h

/-- Nobody but the writer changes the writer's standing. -/
theorem Step.writer_eq {c c' : Connection} {e : Event} (h : Step c e c') (he : e ≠ .writer) : c'.writer = c.writer := by
  cases h with
  | take => exact absurd rfl he
  | pass => exact absurd rfl he
  | breakOff => exact absurd rfl he
  | stop => exact absurd rfl he
  | _ => rfl

theorem react_writer_eq {e : Event} (he : e ≠ .writer) (c : Connection) : (c.react e).writer = c.writer := by
  rcases react_cases c e with ⟨-, hstays⟩ | hstep
  · rw [hstays]
  · exact hstep.writer_eq he

theorem follow_writer_eq {events : List Event} (h : .writer ∉ events) (c : Connection) :
    (c.follow events).writer = c.writer := by
  refine follow_keeps (P := (·.writer = c.writer)) (fun e he r hr => ?_) rfl
  exact (react_writer_eq (fun heq => h (heq ▸ he)) r).trans hr

/-- All that turns of the writer, one or more of them, can come to. -/
inductive Sends (c c' : Connection) : Prop where
  | gone (h : c'.accepts = false)
  | takes (haccepted : c'.channel.accepted = c.channel.accepted) (htaken : c.channel.taken < c'.channel.taken)
      (hframes : ∀ i, c.channel.taken ≤ i → i < c'.channel.taken → c.channel.accepted[i]? ≠ some .shutdown)
  | passes (hchannel : c'.channel = c.channel) (hdue : c'.writer.due < c.writer.due)
  | rests (hnext : c.channel.next? = none) (hsame : c' = c)
  | stalls (rest : Bytes) (hstalled : c.Stalled rest) (hsame : c' = c)

theorem sends_turn (c : Connection) : Sends c (c.react .writer) := by
  rcases react_cases c .writer with ⟨hnone, hstays⟩ | hstep
  · rw [hstays]
    have hwaits : c.writerStep = none := hnone
    unfold writerStep at hwaits
    cases hw : c.writer with
    | stopped => exact .gone (by simp [accepts, hw])
    | sending rest =>
      rw [hw] at hwaits
      refine .stalls rest ⟨hw, ?_⟩ rfl
      simpa using hwaits
    | writing =>
      rw [hw] at hwaits
      refine .rests ?_ rfl
      cases hnext : c.channel.next? with
      | none => rfl
      | some command => cases command <;> simp [hnext] at hwaits
  · generalize c.react .writer = c' at hstep
    cases hstep with
    | take frame hwriter hnext =>
      refine .takes rfl (Nat.lt_succ_self _) fun i hle hlt hshutdown => ?_
      obtain rfl := Nat.le_antisymm (Nat.le_of_lt_succ hlt) hle
      cases hnext.symm.trans hshutdown
    | pass bytes rest target hwriter hwindow hput =>
      refine .passes rfl ?_
      rw [hwriter]
      dsimp only
      split
      · exact Nat.succ_pos _
      · rename_i hrest
        exact Nat.succ_lt_succ (Target.length_lt_of_put hput hwindow hrest)
    | breakOff => exact .gone rfl
    | stop => exact .gone rfl

theorem Sends.turn {c c' : Connection} (h : Sends c c') : Sends c (c'.react .writer) := by
  cases h with
  | gone h => exact .gone (react_stopped h .writer)
  | rests hnext hsame => exact hsame ▸ sends_turn c
  | stalls rest hstalled hsame => exact hsame ▸ sends_turn c
  | takes haccepted htaken hframes =>
    cases sends_turn c' with
    | gone h => exact .gone h
    | takes haccepted' htaken' hframes' =>
      refine .takes (haccepted'.trans haccepted) (Nat.lt_trans htaken htaken') fun i hle hlt => ?_
      rcases Nat.lt_or_ge i c'.channel.taken with hbefore | hbehind
      · exact hframes i hle hbefore
      · exact haccepted ▸ hframes' i hbehind hlt
    | passes hchannel hdue => exact .takes (hchannel ▸ haccepted) (hchannel ▸ htaken) (hchannel ▸ hframes)
    | rests hnext hsame => exact hsame.symm ▸ .takes haccepted htaken hframes
    | stalls rest hstalled hsame => exact hsame.symm ▸ .takes haccepted htaken hframes
  | passes hchannel hdue =>
    cases sends_turn c' with
    | gone h => exact .gone h
    | takes haccepted htaken hframes => exact .takes (hchannel ▸ haccepted) (hchannel ▸ htaken) (hchannel ▸ hframes)
    | passes hchannel' hdue' => exact .passes (hchannel'.trans hchannel) (Nat.lt_trans hdue' hdue)
    | rests hnext hsame => exact hsame.symm ▸ .passes hchannel hdue
    | stalls rest hstalled hsame => exact hsame.symm ▸ .passes hchannel hdue

theorem sends_turns (c : Connection) (n : Nat) : Sends c (c.follow (List.replicate (n + 1) .writer)) := by
  induction n with
  | zero => exact sends_turn c
  | succ n ih =>
    rw [List.replicate_succ', follow_append]
    exact ih.turn

/-- Turns of the writer make room, or bring its frame nearer to the end, or find it stalled. -/
theorem Sends.room {c c' : Connection} (h : Sends c c') (hregular : c.channel.Regular) :
    c'.mustWait = false ∨ c'.writer.due < c.writer.due ∨ c' = c ∧ ∃ rest, c.Stalled rest := by
  cases h with
  | gone h => exact .inl (by rw [mustWait, h, Bool.false_and])
  | takes haccepted htaken hframes =>
    exact .inl (by rw [mustWait, hregular.isFull_of_taken_lt haccepted htaken, Bool.and_false])
  | passes hchannel hdue => exact .inr (.inl hdue)
  | rests hnext hsame =>
    left
    rw [hsame, mustWait]
    cases hfull : c.channel.isFull with
    | false => exact Bool.and_false _
    | true =>
      obtain ⟨command, hsome⟩ := Channel.exists_next? hfull
      cases hnext.symm.trans hsome
  | stalls rest hstalled hsame => exact .inr (.inr ⟨hsame, rest, hstalled⟩)

/-! ## Rounds -/

/-- Rounds, one or more: whatever happens first, the writer has a row of turns and then the actor has one or more. -/
inductive Rounds (actor : Event) : List Event → Prop where
  | one (between : List Event) (n : Nat) (h : .writer ∉ between) :
      Rounds actor (between ++ (List.replicate (n + 1) .writer ++ [actor]))
  | again {xs : List Event} (hxs : Rounds actor xs) : Rounds actor (xs ++ [actor])
  | more {xs ys : List Event} (hxs : Rounds actor xs) (hys : Rounds actor ys) : Rounds actor (xs ++ ys)

/-- The first rows of a run without end. -/
def firstRows (rows : Nat → List Event) : Nat → List Event
  | 0 => []
  | n + 1 => firstRows rows n ++ rows n

/-- The connection along a run without end that is given row by row. -/
def along (c : Connection) (rows : Nat → List Event) (n : Nat) : Connection :=
  c.follow (firstRows rows n)

theorem along_succ (c : Connection) (rows : Nat → List Event) (n : Nat) :
    c.along rows (n + 1) = (c.along rows n).follow (rows n) :=
  follow_append c (firstRows rows n) (rows n)

theorem exists_firstRows (rows : Nat → List Event) {n m : Nat} (hle : n ≤ m) :
    ∃ more, firstRows rows m = firstRows rows n ++ more := by
  induction hle with
  | refl => exact ⟨[], (List.append_nil _).symm⟩
  | @step m _ ih =>
    obtain ⟨more, hmore⟩ := ih
    exact ⟨more ++ rows m, by rw [firstRows, hmore, List.append_assoc]⟩

/-- What no event undoes lasts. -/
theorem along_of_le {P : Connection → Prop} (hkeep : ∀ c events, P c → P (c.follow events)) {c : Connection}
    {rows : Nat → List Event} {n m : Nat} (hle : n ≤ m) (h : P (c.along rows n)) : P (c.along rows m) := by
  obtain ⟨more, hmore⟩ := exists_firstRows rows hle
  rw [along, hmore, follow_append]
  exact hkeep _ more h

end Connection

/-! ## Coming to an end -/

/-- How far off something is, by three measures of which the first counts most. -/
def Nearer : Nat × Nat × Nat → Nat × Nat × Nat → Prop :=
  Prod.Lex (· < ·) (Prod.Lex (· < ·) (· < ·))

namespace Nearer

theorem wf : WellFounded Nearer :=
  (Prod.lex Nat.lt_wfRel (Prod.lex Nat.lt_wfRel Nat.lt_wfRel)).wf

theorem first {a b : Nat} (h : a < b) (x y : Nat × Nat) : Nearer (a, x) (b, y) := .left x y h

theorem second {a b : Nat} (first : Nat) (h : a < b) (x y : Nat) : Nearer (first, a, x) (first, b, y) :=
  .right first (.left x y h)

theorem third {a b : Nat} (first second : Nat) (h : a < b) : Nearer (first, second, a) (first, second, b) :=
  .right first (.right second h)

theorem trans {a b c : Nat × Nat × Nat} (h : Nearer a b) (h' : Nearer b c) : Nearer a c := by
  obtain ⟨a₁, a₂, a₃⟩ := a
  obtain ⟨b₁, b₂, b₃⟩ := b
  obtain ⟨c₁, c₂, c₃⟩ := c
  simp only [Nearer, Prod.lex_def] at h h' ⊢
  omega

/-- What comes nearer to its end again and again comes to its end. Otherwise it is held at every point from some point
on. -/
theorem ends_or_held (off : Nat → Nat × Nat × Nat → Prop) (ended : Prop) (held : Nat → Prop)
    (step : ∀ n a, off n a → ended ∨ (∃ m b, n < m ∧ off m b ∧ Nearer b a) ∨ (off (n + 1) a ∧ held n))
    {n : Nat} {a : Nat × Nat × Nat} (h : off n a) : ended ∨ ∃ m, ∀ k, m ≤ k → held k := by
  induction a using wf.induction generalizing n with
  | _ a ih =>
    by_cases hends : ended ∨ ∃ m b, n < m ∧ off m b ∧ Nearer b a
    · rcases hends with hended | ⟨m, b, -, hm, hnearer⟩
      · exact .inl hended
      · exact ih b hnearer hm
    · -- It never comes nearer, so it stays where it is and is held.
      have hstep : ∀ k, n ≤ k → off k a → off (k + 1) a ∧ held k := by
        intro k hk hat
        rcases step k a hat with hended | ⟨m, b, hm, hat', hnearer⟩ | hheld
        · exact absurd (.inl hended) hends
        · exact absurd (.inr ⟨m, b, Nat.lt_of_le_of_lt hk hm, hat', hnearer⟩) hends
        · exact hheld
      have hstays : ∀ k, n ≤ k → off k a := by
        intro k hk
        induction hk with
        | refl => exact h
        | step hk hat => exact (hstep _ hk hat).1
      exact .inr ⟨n, fun k hk => (hstep k hk (hstays k hk)).2⟩

end Nearer

end LspClient
