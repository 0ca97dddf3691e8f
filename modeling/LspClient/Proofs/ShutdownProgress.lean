import LspClient.Proofs.Farewell
import LspClient.Proofs.Stalls

/-!
# A shutdown comes to its end

A shutdown waits for room in the channel, for the answer to its request or the end of its time, and for the writer. If
time goes on and the writer and the shutdown have their turns again and again, it comes to its end, unless it is kept
from some time on behind a writer that is stalled.
-/

namespace LspClient.Connection

/-! ## The writer comes to its end -/

/-- The writer has ended, or the command that ends it waits behind `k` others. -/
def EndsBehind (o : Outgoing) (k : Nat) : Prop :=
  o.writer = .stopped ∨ o.channel.accepted[o.channel.taken + k]? = some .shutdown

/-- Nothing is ever put before a command that waits. -/
theorem Move.endsBehind {o o' : Outgoing} {commands : List Command} {lines : List Tracing}
    (hmove : Move o commands lines o') (hwriter : o'.writer = o.writer) {k : Nat} (h : EndsBehind o k) :
    EndsBehind o' k := by
  rcases h with hstopped | hwaits
  · exact .inl (hwriter.trans hstopped)
  · cases hmove with
    | adds commands lines hlines =>
      have hlt := (List.getElem?_eq_some_iff.1 hwaits).1
      exact .inr ((List.getElem?_append_left hlt).trans hwaits)
    | breaks failure => exact .inr hwaits
    | drains n => exact .inr hwaits
    | takes frame hwriting hnext => cases hwriter.trans hwriting
    | passes bytes rest target hsending hwindow hput => exact .inr hwaits
    | fails bytes target e hsending hwindow hput => exact .inl rfl
    | ends hwriting hnext => exact .inl rfl

theorem react_endsBehind {c : Connection} {k : Nat} (h : EndsBehind c.outgoing k) {e : Event} (he : e ≠ .writer) :
    EndsBehind (c.react e).outgoing k :=
  (react_move c e).endsBehind (react_writer_eq he c) h

theorem exists_endsBehind {c : Connection} (htaken : c.channel.taken ≤ c.channel.accepted.length)
    (hqueued : c.queued .call = [.shutdown]) : ∃ k, EndsBehind (c.react .call).outgoing k := by
  refine ⟨c.channel.accepted.length - c.channel.taken, .inr ?_⟩
  have hmove := react_move c .call
  rw [hqueued] at hmove
  generalize c.traced .call = lines at hmove
  generalize (c.react .call).outgoing = o at hmove
  cases hmove with
  | adds => simp [Outgoing.add, Channel.pushAll, outgoing, Nat.add_sub_cancel' htaken]

/-- Turns of the writer bring it nearer to its end, or its frame, or find it stalled. -/
theorem Sends.endsBehind {c c' : Connection} (h : Sends c c') (haccepts : c'.accepts = true) {k : Nat}
    (hends : EndsBehind c.outgoing k) (hkeeps : c.writer = .stopped → c'.writer = .stopped) :
    (∃ j, j < k ∧ EndsBehind c'.outgoing j) ∨ (EndsBehind c'.outgoing k ∧ c'.writer.due < c.writer.due) ∨
      c' = c ∧ ∃ rest, c.Stalled rest := by
  have hwaits : c.channel.accepted[c.channel.taken + k]? = some .shutdown := by
    refine hends.resolve_left fun hstopped => ?_
    simp [accepts, hkeeps hstopped] at haccepts
  cases h with
  | gone hgone => cases hgone.symm.trans haccepts
  | takes haccepted htaken hframes =>
    -- The end of the writer is none of the commands that were taken.
    have hle : c'.channel.taken ≤ c.channel.taken + k := by
      refine Nat.le_of_not_lt fun hlt => ?_
      exact hframes (c.channel.taken + k) (Nat.le_add_right _ k) hlt hwaits
    refine .inl ⟨c.channel.taken + k - c'.channel.taken, by omega, .inr ?_⟩
    have hplace : c'.channel.taken + (c.channel.taken + k - c'.channel.taken) = c.channel.taken + k :=
      Nat.add_sub_cancel' hle
    exact (congrArg (c'.channel.accepted[·]?) hplace).trans (haccepted ▸ hwaits)
  | passes hchannel hdue => exact .inr (.inl ⟨.inr (hchannel.symm ▸ hwaits :), hdue⟩)
  | rests hnext hsame =>
    have hlt : c.channel.taken + k < c.channel.accepted.length := (List.getElem?_eq_some_iff.1 hwaits).1
    have hle : c.channel.accepted.length ≤ c.channel.taken := List.getElem?_eq_none_iff.1 hnext
    omega
  | stalls rest hstalled hsame => exact .inr (.inr ⟨hsame, rest, hstalled⟩)

/-! ## How far a shutdown is from its end -/

/-- The stages that a shutdown has before it, with the one that it is at. -/
def rank : Stage → Nat
  | .sending _ => 6
  | .waiting _ _ => 5
  | .expired _ _ => 4
  | .notifying _ => 3
  | .closing _ => 2
  | .joining _ => 1

/-- How far a shutdown at a stage is from its end: the stages that are left, the commands before the end of the writer,
and what is due for the frame that is under way. -/
inductive Off (timeout : Nat) (c : Connection) : Stage → Nat × Nat × Nat → Prop where
  | sending {stage : Stage} {command : Command} (hoffer : offered (.shutdown timeout) stage = some command) :
      Off timeout c stage (rank stage, 0, c.writer.due)
  | waiting (id t : Nat) : Off timeout c (.waiting id (some t)) (5, 0, 0)
  | expired (id limit : Nat) : Off timeout c (.expired id limit) (4, 0, 0)
  | joining (r : Except CallError Answer) {k : Nat} (hends : EndsBehind c.outgoing k) :
      Off timeout c (.joining r) (1, k, c.writer.due)

/-- A shutdown goes on and is so far from its end. -/
def Away (timeout : Nat) (c : Connection) (a : Nat × Nat × Nat) : Prop :=
  ∃ stage, c.owner.call = some (.shutdown timeout, stage) ∧ Off timeout c stage a

/-- What becomes of a shutdown: it is over, or has come nearer to its end, or is where it was. -/
inductive Goes (timeout : Nat) (a : Nat × Nat × Nat) (c : Connection) (stays : Prop) : Prop where
  | gone (h : c.owner.Gone)
  | nearer (b : Nat × Nat × Nat) (h : Away timeout c b) (hnearer : Nearer b a)
  | waits (h : Away timeout c a) (hstays : stays)

/-- A shutdown waits for room, or for the end of the writer, and the writer is stalled. -/
structure Kept (timeout : Nat) (stage : Stage) (rest : Bytes) (c : Connection) : Prop where
  call : c.owner.call = some (.shutdown timeout, stage)
  stalled : c.Stalled rest
  full : (∃ r, stage = .joining r) ∨ (∃ command, offered (.shutdown timeout) stage = some command) ∧
    c.channel.isFull = true

/-- A shutdown waits for an answer still. -/
structure Early (timeout : Nat) (c c' : Connection) : Prop where
  call : c'.owner.call = c.owner.call
  early : ∃ id t, c'.owner.call = some (.shutdown timeout, .waiting id (some t)) ∧ c'.now < t

/-- Nothing has become of a shutdown and the writer, and the shutdown is kept. -/
structure StaysKept (timeout : Nat) (c c' : Connection) : Prop where
  call : c'.owner.call = c.owner.call
  writer : c'.writer = c.writer
  kept : ∃ stage rest, Kept timeout stage rest c'

section Away
variable {timeout : Nat} {c : Connection} {a : Nat × Nat × Nat}

theorem Off.fst_eq {stage : Stage} (h : Off timeout c stage a) : a.1 = rank stage := by
  cases h <;> rfl

theorem Off.rest {stage : Stage} (h : Off timeout c stage a) {e : Event} (he : e ≠ .writer) :
    Off timeout (c.react e) stage a := by
  have hdue : c.writer.due = (c.react e).writer.due := by rw [react_writer_eq he]
  cases h with
  | sending hoffer => exact hdue ▸ .sending hoffer
  | waiting id t => exact .waiting id t
  | expired id limit => exact .expired id limit
  | joining r hends => exact hdue ▸ .joining r (react_endsBehind hends he)

/-- A step of a shutdown brings it to a later stage or to its end, if nothing holds it. -/
theorem shutdown_turn (hregular : c.channel.Regular) {stage : Stage} {slot : Slot}
    (hc : c.call = some ⟨.shutdown timeout, stage, slot⟩) :
    (c.react .call).owner.Gone ∨ (∃ b, Away timeout (c.react .call) b ∧ b.1 < rank stage) ∨
      c.react .call = c ∧ Held c (.shutdown timeout) slot stage := by
  have hturn := call_turn hc
  generalize c.observe .call = notes at hturn
  generalize hqueued : c.queued .call = queued at hturn
  generalize howner : (c.react .call).owner = o at hturn
  have hat : ∀ {stage' : Stage} {b : Nat × Nat × Nat}, o.call = some (.shutdown timeout, stage') →
      Off timeout (c.react .call) stage' b → b.1 < rank stage →
        o.Gone ∨ (∃ b, Away timeout (c.react .call) b ∧ b.1 < rank stage) ∨
          c.react .call = c ∧ Held c (.shutdown timeout) slot stage :=
    fun hcall hoff hlt => .inr (.inl ⟨_, ⟨_, howner ▸ hcall, hoff⟩, hlt⟩)
  cases hturn with
  | waits _ hheld => exact .inr (.inr ⟨hheld.react_eq hc, hheld⟩)
  | sends id haccepts => exact hat rfl (.waiting id _) (by simp [rank])
  | refused id haccepts => exact hat rfl (.sending rfl) (by simp [rank])
  | answered id deadline body hslot => exact hat rfl (.sending rfl) (by simp [rank])
  | hungUp id deadline hslot => exact hat rfl (.sending rfl) (by simp [rank])
  | expires id t limit hlate => exact hat rfl (.expired id limit) (by simp [rank])
  | timedOut id limit => exact hat rfl (.sending rfl) (by simp [rank])
  | notifies r haccepts hroom => exact hat rfl (.sending rfl) (by simp [rank])
  | unheard r haccepts => exact hat rfl (.sending rfl) (by simp [rank])
  | closes r haccepts =>
    obtain ⟨k, hends⟩ := exists_endsBehind hregular.taken hqueued
    exact hat rfl (.joining r hends) (by simp [rank])
  | unclosed r haccepts =>
    have hends : EndsBehind (c.react .call).outgoing 0 := .inl (writer_of_stopped (react_stopped haccepts .call))
    exact hat rfl (.joining r hends) (by simp [rank])
  | returns r haccepts => exact .inl ⟨rfl, rfl⟩

theorem Away.call (h : Away timeout c a) (hregular : c.channel.Regular) :
    Goes timeout a (c.react .call) (c.react .call = c) := by
  obtain ⟨stage, hcall, hoff⟩ := h
  obtain ⟨slot, hc⟩ := call_of_owner hcall
  rcases shutdown_turn hregular hc with hgone | ⟨b, hb, hlt⟩ | ⟨hsame, -⟩
  · exact .gone hgone
  · exact .nearer b hb (.first (hoff.fst_eq ▸ hlt) b.2 a.2)
  · exact .waits (hsame.symm ▸ ⟨stage, hcall, hoff⟩) hsame

theorem Away.departs (h : Away timeout c a) : c.owner.Departs :=
  h.elim fun _ hstage => .going hstage.1

/-- Others than the writer leave a shutdown where it is or bring it nearer to its end. -/
theorem Away.react (h : Away timeout c a) (hregular : c.channel.Regular) {e : Event} (hwriter : e ≠ .writer)
    (hcancel : e ≠ .cancel) :
    Goes timeout a (c.react e) ((c.react e).owner.call = c.owner.call ∧ (c.react e).writer = c.writer) := by
  cases e with
  | start goal =>
    rw [h.departs.react_start goal]
    exact .waits h ⟨rfl, rfl⟩
  | cancel => exact absurd rfl hcancel
  | call =>
    cases h.call hregular with
    | gone hgone => exact .gone hgone
    | nearer b hb hnearer => exact .nearer b hb hnearer
    | waits haway hsame => exact .waits haway ⟨by rw [hsame], by rw [hsame]⟩
  | writer => exact absurd rfl hwriter
  | _ =>
    obtain ⟨stage, hcall, hoff⟩ := h
    refine .waits ⟨stage, ?_, hoff.rest hwriter⟩ ⟨?_, react_writer_eq hwriter c⟩
    · rw [react_owner rfl, hcall]
    · rw [react_owner rfl]

/-- What becomes of a shutdown when more happens. -/
theorem Goes.next {first later both : Prop} (h : Goes timeout a c first) (events : List Event)
    (hlater : ∀ b, Away timeout c b → Goes timeout b (c.follow events) later) (hboth : first → later → both) :
    Goes timeout a (c.follow events) both := by
  cases h with
  | gone hgone => exact .gone (follow_gone hgone events)
  | nearer b haway hnearer =>
    cases hlater b haway with
    | gone hgone => exact .gone hgone
    | nearer b' haway' hnearer' => exact .nearer b' haway' (hnearer'.trans hnearer)
    | waits haway' _ => exact .nearer b haway' hnearer
  | waits haway hfirst =>
    cases hlater a haway with
    | gone hgone => exact .gone hgone
    | nearer b haway' hnearer => exact .nearer b haway' hnearer
    | waits haway' hlast => exact .waits haway' (hboth hfirst hlast)

theorem Away.follow (h : Away timeout c a) (hregular : c.channel.Regular) {events : List Event}
    (hwriter : .writer ∉ events) (hcancel : .cancel ∉ events) :
    Goes timeout a (c.follow events)
      ((c.follow events).owner.call = c.owner.call ∧ (c.follow events).writer = c.writer) := by
  induction events generalizing c a with
  | nil => exact .waits h ⟨rfl, rfl⟩
  | cons e events ih =>
    obtain ⟨hw, hws⟩ := List.ne_and_not_mem_of_not_mem_cons hwriter
    obtain ⟨hc, hcs⟩ := List.ne_and_not_mem_of_not_mem_cons hcancel
    have hlater := fun b (haway : Away timeout (c.react e) b) => ih haway (follow_regular [e] hregular) hws hcs
    refine (h.react hregular hw.symm hc.symm).next events hlater fun hfirst hlast => ?_
    exact ⟨hlast.1.trans hfirst.1, hlast.2.trans hfirst.2⟩

/-- Turns of the writer and then a turn of the call bring a shutdown nearer to its end, unless it waits for an answer or
is kept. -/
theorem Away.round (h : Away timeout c a) (hregular : c.channel.Regular) (n : Nat) {c' : Connection}
    (hc' : c.follow (List.replicate (n + 1) .writer ++ [.call]) = c') :
    Goes timeout a c' (Early timeout c c' ∨ StaysKept timeout c c') := by
  rw [follow_append] at hc'
  obtain ⟨stage, hcall, hoff⟩ := h
  have hsends := sends_turns c n
  have howner : (c.follow (List.replicate (n + 1) .writer)).owner = c.owner :=
    follow_owner (fun e he => by rw [List.eq_of_mem_replicate he]; rfl) c
  have hregular₁ := follow_regular (List.replicate (n + 1) .writer) hregular
  have hstops : c.writer = .stopped → (c.follow (List.replicate (n + 1) .writer)).writer = .stopped :=
    fun h => (follow_stopped _ h).1
  generalize c.follow (List.replicate (n + 1) .writer) = c₁ at *
  have hcall₁ : c₁.owner.call = some (.shutdown timeout, stage) := howner ▸ hcall
  obtain ⟨slot, hc₁⟩ := call_of_owner hcall₁
  have hturn := shutdown_turn hregular₁ hc₁
  rw [show c₁.react .call = c' from hc'] at hturn
  rcases hturn with hgone | ⟨b, hb, hlt⟩ | ⟨rfl, hheld⟩
  · exact .gone hgone
  · exact .nearer b hb (.first (hoff.fst_eq ▸ hlt) b.2 a.2)
  cases hoff with
  | sending hoffer =>
    have hfull : c'.accepts = true ∧ c'.channel.isFull = true := by
      cases hheld with
      | full _ haccepts hfull => exact ⟨haccepts, hfull⟩
      | early => cases hoffer
      | unended => cases hoffer
    rcases hsends.room hregular with hroom | hpassed | ⟨rfl, rest, hstalled⟩
    · rw [mustWait, hfull.1, hfull.2] at hroom
      cases hroom
    · exact .nearer _ ⟨stage, hcall₁, .sending hoffer⟩ (.third _ _ hpassed)
    · exact .waits ⟨stage, hcall, .sending hoffer⟩
        (.inr ⟨rfl, rfl, stage, rest, hcall, hstalled, .inr ⟨⟨_, hoffer⟩, hfull.2⟩⟩)
  | waiting id t =>
    cases hheld with
    | full hoffer => cases hoffer
    | early _ hslot hleft =>
      exact .waits ⟨_, hcall₁, .waiting id t⟩ (.inl ⟨by rw [howner], id, t, hcall₁, hleft t timeout rfl rfl⟩)
  | expired id limit =>
    cases hheld with
    | full hoffer => cases hoffer
  | joining r hends =>
    cases hheld with
    | full hoffer => cases hoffer
    | unended _ haccepts =>
      rcases hsends.endsBehind haccepts hends hstops with ⟨j, hj, hends'⟩ | ⟨hends', hdue⟩ | ⟨rfl, rest, hstalled⟩
      · exact .nearer _ ⟨_, hcall₁, .joining r hends'⟩ (.second _ hj _ _)
      · exact .nearer _ ⟨_, hcall₁, .joining r hends'⟩ (.third _ _ hdue)
      · exact .waits ⟨_, hcall, .joining r hends⟩ (.inr ⟨rfl, rfl, _, rest, hcall, hstalled, .inl ⟨r, rfl⟩⟩)

theorem Early.trans {c' c'' : Connection} (h : Early timeout c c') (h' : Early timeout c' c'') :
    Early timeout c c'' :=
  ⟨h'.call.trans h.call, h'.early⟩

theorem StaysKept.trans {c' c'' : Connection} (h : StaysKept timeout c c') (h' : StaysKept timeout c' c'') :
    StaysKept timeout c c'' :=
  ⟨h'.call.trans h.call, h'.writer.trans h.writer, h'.kept⟩

/-- A shutdown that waits for an answer is not kept. -/
theorem Kept.not_waiting {stage : Stage} {rest : Bytes} (h : Kept timeout stage rest c) {id t : Nat} :
    c.owner.call ≠ some (.shutdown timeout, .waiting id (some t)) := by
  intro hcall
  cases h.call.symm.trans hcall
  rcases h.full with ⟨r, hr⟩ | ⟨⟨command, hoffer⟩, -⟩
  · cases hr
  · cases hoffer

theorem Rounds.away {events : List Event} (h : Rounds .call events) (hcancel : .cancel ∉ events)
    (hregular : c.channel.Regular) (haway : Away timeout c a) :
    Goes timeout a (c.follow events) (Early timeout c (c.follow events) ∨ StaysKept timeout c (c.follow events)) := by
  induction h generalizing c a with
  | one between n hwriter =>
    rw [follow_append]
    have hbetween : .cancel ∉ between := fun hmem => hcancel (List.mem_append_left _ hmem)
    have hlater := fun b (hb : Away timeout (c.follow between) b) => hb.round (follow_regular between hregular) n rfl
    refine (haway.follow hregular hwriter hbetween).next _ hlater ?_
    rintro ⟨hcall, hwriter⟩ (hearly | hkept)
    · exact .inl ⟨hearly.call.trans hcall, hearly.early⟩
    · exact .inr ⟨hkept.call.trans hcall, hkept.writer.trans hwriter, hkept.kept⟩
  | @again xs _ ih =>
    rw [follow_append]
    have hxs : .cancel ∉ xs := fun hmem => hcancel (List.mem_append_left _ hmem)
    have hlater := fun b (hb : Away timeout (c.follow xs) b) => hb.call (follow_regular xs hregular)
    refine (ih hxs hregular haway).next [.call] hlater fun hstays hsame => ?_
    rw [show (c.follow xs).follow [.call] = c.follow xs from hsame]
    exact hstays
  | @more xs ys _ _ ihx ihy =>
    rw [follow_append]
    obtain ⟨hxs, hys⟩ : .cancel ∉ xs ∧ .cancel ∉ ys := not_or.1 fun hmem => hcancel (List.mem_append.2 hmem)
    refine (ihx hxs hregular haway).next ys (fun b hb => ihy hys (follow_regular xs hregular) hb) ?_
    rintro (hearly | hkept) (hearly' | hkept')
    · exact .inl (hearly.trans hearly')
    · obtain ⟨id, t, hcall, -⟩ := hearly.early
      obtain ⟨stage, rest, hkept⟩ := hkept'.kept
      exact absurd (hkept'.call.trans hcall) hkept.not_waiting
    · obtain ⟨id, t, hcall, -⟩ := hearly'.early
      obtain ⟨stage, rest, hkept⟩ := hkept.kept
      exact absurd (hearly'.call.symm.trans hcall) hkept.not_waiting
    · exact .inr (hkept.trans hkept')

end Away

/-! ## Round after round -/

section Rows
variable {timeout : Nat} {c : Connection} {rows : Nat → List Event} (hregular : c.channel.Regular)
  (hrows : ∀ n, Rounds .call (rows n)) (hcancel : ∀ n, .cancel ∉ rows n)
include hregular hrows hcancel

theorem along_away {n : Nat} {a : Nat × Nat × Nat} (h : Away timeout (c.along rows n) a) :
    Goes timeout a (c.along rows (n + 1))
      (Early timeout (c.along rows n) (c.along rows (n + 1)) ∨
        StaysKept timeout (c.along rows n) (c.along rows (n + 1))) := by
  rw [along_succ]
  exact (hrows n).away (hcancel n) (follow_regular (firstRows rows n) hregular) h

/-- A shutdown does not wait for an answer for ever, since time goes on. -/
theorem along_expires (htime : ∀ t, ∃ n, t ≤ (c.along rows n).now) {n : Nat} {a : Nat × Nat × Nat}
    (haway : Away timeout (c.along rows (n + 1)) a)
    (hearly : Early timeout (c.along rows n) (c.along rows (n + 1))) :
    (∃ m, (c.along rows m).owner.Gone) ∨ ∃ m b, n < m ∧ Away timeout (c.along rows m) b ∧ Nearer b a := by
  obtain ⟨id, t, hcall, hlt⟩ := hearly.early
  have hwaits : ∀ k, ((∃ m, (c.along rows m).owner.Gone) ∨
      ∃ m b, n < m ∧ Away timeout (c.along rows m) b ∧ Nearer b a) ∨
        Away timeout (c.along rows (n + 1 + k)) a ∧ (c.along rows (n + 1 + k)).now < t ∧
          (c.along rows (n + 1 + k)).owner.call = some (.shutdown timeout, .waiting id (some t)) := by
    intro k
    induction k with
    | zero => exact .inr ⟨haway, hlt, hcall⟩
    | succ k ih =>
      rcases ih with hdone | ⟨haway, -, hcall⟩
      · exact .inl hdone
      · cases along_away hregular hrows hcancel haway with
        | gone hgone => exact .inl (.inl ⟨_, hgone⟩)
        | nearer b hb hnearer => exact .inl (.inr ⟨_, b, by omega, hb, hnearer⟩)
        | waits haway' hstays =>
          right
          rcases hstays with hearly | hkept
          · obtain ⟨id', t', hcall', hlt'⟩ := hearly.early
            have hsame := hearly.call.trans hcall
            cases hcall'.symm.trans hsame
            exact ⟨haway', hlt', hsame⟩
          · obtain ⟨stage, rest, hstays⟩ := hkept.kept
            exact absurd (hkept.call.trans hcall) hstays.not_waiting
  obtain ⟨m, hm⟩ := htime t
  rcases hwaits m with hdone | ⟨-, hearlier, -⟩
  · exact hdone
  · have hle : t ≤ (c.along rows (n + 1 + m)).now :=
      along_of_le (P := (t ≤ ·.now)) (fun c events h => Nat.le_trans h (le_follow_now events c)) (by omega) hm
    omega

/-- A shutdown comes to its end, or is kept from some round on at one stage and behind the same bytes. -/
theorem gone_or_kept (htime : ∀ t, ∃ n, t ≤ (c.along rows n).now) {a : Nat × Nat × Nat} (h : Away timeout c a) :
    (∃ n, (c.along rows n).owner.Gone) ∨ ∃ m stage rest, ∀ n, m ≤ n → Kept timeout stage rest (c.along rows n) := by
  have hends := Nearer.ends_or_held (fun n a => Away timeout (c.along rows n) a)
    (∃ n, (c.along rows n).owner.Gone) (fun n => StaysKept timeout (c.along rows n) (c.along rows (n + 1)))
    ?_ (n := 0) h
  · refine hends.imp_right fun ⟨m, hheld⟩ => ?_
    obtain ⟨stage, rest, hfirst⟩ := (hheld m (Nat.le_refl m)).kept
    refine ⟨m + 1, stage, rest, fun n hle => ?_⟩
    induction hle with
    | refl => exact hfirst
    | @step n hle ih =>
      obtain ⟨hcall, hwriter, stage', rest', hkept⟩ := hheld n (Nat.le_of_succ_le hle)
      cases hkept.call.symm.trans (hcall.trans ih.call)
      cases hkept.stalled.writer.symm.trans (hwriter.trans ih.stalled.writer)
      exact hkept
  · intro n a haway
    cases along_away hregular hrows hcancel haway with
    | gone hgone => exact .inl ⟨_, hgone⟩
    | nearer b hb hnearer => exact .inr (.inl ⟨_, b, Nat.lt_succ_self n, hb, hnearer⟩)
    | waits haway' hstays =>
      rcases hstays with hearly | hkept
      · rcases along_expires hregular hrows hcancel htime haway' hearly with hgone | hnearer
        · exact .inl hgone
        · exact .inr (.inl hnearer)
      · exact .inr (.inr ⟨haway', hkept⟩)

end Rows

theorem exists_away_start {c : Connection} (timeout : Nat) (hcall : c.call = none) (hused : c.usedUp = false) :
    ∃ a, Away timeout (c.react (.start (.shutdown timeout))) a := by
  have howner := owner_beginRequest c (.shutdown timeout)
  rw [react, next?_start timeout hcall hused, Option.getD_some]
  cases hp : c.pending with
  | some ids =>
    rw [hp] at howner
    exact ⟨_, _, congrArg Owner.call howner, .sending rfl⟩
  | none =>
    rw [hp] at howner
    exact ⟨_, _, congrArg Owner.call howner, .sending rfl⟩

end LspClient.Connection
