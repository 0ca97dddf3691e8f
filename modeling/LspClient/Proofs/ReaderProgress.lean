import LspClient.Proofs.ReaderIntake
import LspClient.Proofs.Stalls

/-!
# The reader of a connection comes to its end

Once the stream is closed every turn of the reader leaves it less to do. It never waits but for room in the channel, so
it comes to its end, unless a reply waits behind a writer that is stalled for good.
-/

namespace LspClient.Connection

/-- A bound on the turns that the reader still has. -/
def Intake.left (i : Intake) : Nat :=
  2 * i.inbox.length + match i.reader with
    | .ended => 0
    | .reading => 1
    | .replying _ => 2

theorem Intake.left_le (i : Intake) : i.left ≤ 2 * i.inbox.length + 2 := by
  unfold Intake.left
  split <;> omega

theorem ReaderTurn.left_lt {i i' : Intake} {rs : List Frame.Reading} (h : ReaderTurn i rs i') :
    i'.left < i.left := by
  cases h with
  | @reads v rest reader hreader hread hnext =>
    have hforward := Frame.goesForward_of_readFrom hread
    have hne : i.inbox ≠ [] := fun hs => nomatch hforward.ended_iff.mpr hs
    have hproper := hforward.proper hne
    have hreader' : (match reader with | .ended => 0 | .reading => 1 | .replying _ => 2) ≤ 2 := by
      split <;> omega
    simp only [Intake.left, hreader]
    omega
  | stops hreader hread hr =>
    have hle := (Frame.goesForward_of_readFrom hread).suffix.length_le
    simp only [Intake.left, hreader]
    omega
  | replies hreader =>
    simp only [Intake.left, hreader]
    omega

/-- Once the stream is closed, what happens to the reader lessens what is left or leaves the reader where it is. -/
theorem Take.left_lt_or {i i' : Intake} {bytes : Bytes} {rs : List Frame.Reading} {cuts : Bool}
    (h : Take i bytes rs cuts i') (hended : i.ended = true) :
    i'.ended = true ∧ (i'.left < i.left ∨ i'.left = i.left ∧ i'.reader = i.reader) := by
  cases h with
  | idle => exact ⟨hended, .inr ⟨rfl, rfl⟩⟩
  | arrives bytes hopen hreader =>
    rw [hopen] at hended
    cases hended
  | closes => exact ⟨rfl, .inr ⟨rfl, rfl⟩⟩
  | cut hreader =>
    refine ⟨hended, .inl ?_⟩
    cases hr : i.reader with
    | ended => exact absurd hr hreader
    | reading => simp [Intake.left, hr]
    | replying reply => simp [Intake.left, hr]
  | turn hturn =>
    refine ⟨?_, .inl hturn.left_lt⟩
    cases hturn <;> exact hended

theorem follow_left_lt_or (events : List Event) {c : Connection} (hended : c.inboxEnded = true) :
    (c.follow events).inboxEnded = true ∧ ((c.follow events).intake.left < c.intake.left ∨
      (c.follow events).intake.left = c.intake.left ∧ (c.follow events).reader = c.reader) := by
  induction events generalizing c with
  | nil => exact ⟨hended, .inr ⟨rfl, rfl⟩⟩
  | cons e events ih =>
    obtain ⟨hended', hfirst⟩ := (react_take c e).left_lt_or hended
    obtain ⟨hended'', hlater⟩ := ih (c := c.react e) hended'
    refine ⟨hended'', ?_⟩
    rcases hfirst with hlt | ⟨hsame, hreader⟩
    · rcases hlater with hlt' | ⟨hsame', -⟩
      · exact .inl (Nat.lt_trans hlt' hlt)
      · exact .inl (Nat.lt_of_le_of_lt (Nat.le_of_eq hsame') hlt)
    · rcases hlater with hlt' | ⟨hsame', hreader'⟩
      · exact .inl (Nat.lt_of_lt_of_le hlt' (Nat.le_of_eq hsame))
      · exact .inr ⟨hsame'.trans hsame, hreader'.trans hreader⟩

theorem follow_left_le (events : List Event) {c : Connection} (hended : c.inboxEnded = true) :
    (c.follow events).intake.left ≤ c.intake.left := by
  rcases (follow_left_lt_or events hended).2 with hlt | ⟨hsame, -⟩
  · exact Nat.le_of_lt hlt
  · exact Nat.le_of_eq hsame

/-- How many turns of a run the reader can use. -/
def turns (c : Connection) : List Event → Nat
  | [] => 0
  | .reader :: events => (if c.readerStep.isSome then 1 else 0) + (c.react .reader).turns events
  | e :: events => (c.react e).turns events

theorem turns_le (events : List Event) {c : Connection} (hended : c.inboxEnded = true) :
    c.turns events + (c.follow events).intake.left ≤ c.intake.left := by
  induction events generalizing c with
  | nil => simp [turns]
  | cons e events ih =>
    have hle := follow_left_le [e] hended
    have hrest := ih (c := c.react e) (follow_left_lt_or [e] hended).1
    rw [follow_cons, follow_nil] at hle
    cases e with
    | reader =>
      rw [turns, follow_cons]
      cases hstep : c.readerStep with
      | none =>
        simp only [Option.isSome_none, Bool.false_eq_true, if_false]
        omega
      | some c' =>
        have hlt := (step_of_reader hstep).readerTurn.left_lt
        have hreact : c.react .reader = c' := by rw [react, next?, hstep]; rfl
        rw [hreact] at hrest ⊢
        simp only [Option.isSome_some, if_true]
        omega
    | _ =>
      rw [follow_cons]
      simp only [turns]
      omega

/-! ## What the reader waits for -/

/-- A reply waits for room behind a writer that is stalled. -/
structure Blocked (c : Connection) (reply : Json) (rest : Bytes) : Prop where
  reader : c.reader = .replying reply
  full : c.channel.isFull = true
  stalled : c.Stalled rest

/-- The stream has ended, so the reader waits for nothing but room. -/
theorem exists_readerStep {c : Connection} (hended : c.inboxEnded = true) :
    c.reader = .ended ∨ (∃ c', c.readerStep = some c') ∨
      (∃ reply, c.reader = .replying reply) ∧ c.mustWait = true ∧ c.react .reader = c := by
  cases hr : c.reader with
  | ended => exact .inl rfl
  | replying reply =>
    right
    cases hroom : c.mustWait with
    | false => exact .inl ⟨c.sendReply reply, by simp [readerStep, hr, hroom]⟩
    | true => exact .inr ⟨⟨reply, rfl⟩, rfl, by simp [react, next?, readerStep, hr, hroom]⟩
  | reading =>
    right
    left
    obtain ⟨r, rest, hread, -⟩ := Frame.exists_readFrom c.inbox
    simp only [readerStep, hr, hended, hread]
    cases r <;> exact ⟨_, rfl⟩

/-- Where nothing can go on, the reader has ended or is blocked. -/
theorem ended_or_blocked_of_rest {c : Connection} (hended : c.inboxEnded = true) (h : c.canStep = false) :
    c.reader = .ended ∨ ∃ reply rest, c.Blocked reply rest := by
  simp only [canStep, Bool.or_eq_false_iff, Option.isSome_eq_false_iff, Option.isNone_iff_eq_none] at h
  obtain ⟨⟨hreader, -⟩, hwriter⟩ := h
  rcases exists_readerStep hended with hstop | ⟨c', hstep⟩ | ⟨⟨reply, hreply⟩, hwaits, -⟩
  · exact .inl hstop
  · cases hreader.symm.trans hstep
  · obtain ⟨haccepts, hfull⟩ := Bool.and_eq_true_iff.1 hwaits
    -- A full channel has a command for the writer, so a writer that cannot go on has a frame under way.
    obtain ⟨command, hnext⟩ := Channel.exists_next? hfull
    have hsame : c.react .writer = c := by rw [react, next?, hwriter, Option.getD_none]
    have hsends := sends_turn c
    rw [hsame] at hsends
    cases hsends with
    | gone hgone => cases hgone.symm.trans haccepts
    | takes _ htaken => exact absurd htaken (Nat.lt_irrefl _)
    | passes _ hdue => exact absurd hdue (Nat.lt_irrefl _)
    | rests hnone => cases hnone.symm.trans hnext
    | stalls rest hstalled => exact .inr ⟨reply, rest, hreply, hfull, hstalled⟩

theorem Blocked.react {c : Connection} {reply : Json} {rest : Bytes} (h : c.Blocked reply rest) :
    c.react .reader = c := by
  have haccepts : c.accepts = true := by simp [accepts, h.stalled.writer]
  simp [Connection.react, next?, readerStep, mustWait, h.reader, h.full, haccepts]

theorem Blocked.rests {c : Connection} {reply : Json} {rest : Bytes} (h : c.Blocked reply rest)
    (hcall : c.call = none) : c.canStep = false := by
  have haccepts : c.accepts = true := by simp [accepts, h.stalled.writer]
  simp [canStep, readerStep, callStep, writerStep, mustWait, h.reader, h.full, h.stalled.writer, h.stalled.window,
    haccepts, hcall]

/-- A request of the server blocks the reader if no room can be made for the reply. -/
theorem blocked_of_request {c : Connection} {v id : Json} {method : String} {left rest : Bytes}
    (hreader : c.reader = .reading) (hread : Frame.readFrom c.inboxEnded c.inbox = some (.message v, left))
    (hclass : Incoming.classify v = some (.request id method)) (hfull : c.channel.isFull = true)
    (hstalled : c.Stalled rest) : (c.react .reader).Blocked (Message.methodNotFound id method) rest := by
  have haccepts : c.accepts = true := by simp [accepts, hstalled.writer]
  rw [react, (Step.request v left id method hreader hread hclass).next?_eq, Option.getD_some]
  refine ⟨if_pos ?_, ?_, hstalled.writer, hstalled.window⟩
  · exact Bool.and_eq_true_iff.2 ⟨haccepts, hfull⟩
  · have hoffer : ∀ command, c.offer command = c.channel := fun command => by simp [offer, hfull]
    exact (congrArg Channel.isFull (hoffer _)).trans hfull

/-! ## Turn after turn -/

theorem react_reader_ended {c : Connection} (h : c.reader = .ended) (e : Event) : (c.react e).reader = .ended := by
  have htake := react_take c e
  have hview : c.intake.reader = .ended := h
  generalize c.reads e = rs at htake
  generalize c.arriving e = bytes at htake
  generalize c.cuts e = cuts at htake
  generalize hi : (c.react e).intake = i at htake
  have hreader : (c.react e).reader = i.reader := congrArg Intake.reader hi
  rw [hreader]
  cases htake with
  | idle => exact h
  | arrives bytes hopen hne => exact absurd hview hne
  | closes => exact h
  | cut hne => rfl
  | turn hturn =>
    cases hturn with
    | reads hr hread hnext => cases hr.symm.trans hview
    | stops hr hread hlast => rfl
    | replies hr => cases hr.symm.trans hview

theorem follow_reader_ended (events : List Event) {c : Connection} (h : c.reader = .ended) :
    (c.follow events).reader = .ended :=
  follow_keeps (P := (·.reader = .ended)) (fun e _ _ h => react_reader_ended h e) h

/-- How far the reader is from its end. -/
def readerOff (c : Connection) : Nat × Nat × Nat :=
  (c.intake.left, 0, c.writer.due)

/-- Nothing has become of the reader and the writer, and the reader is blocked. -/
structure StaysBlocked (c c' : Connection) : Prop where
  off : c'.readerOff = c.readerOff
  reader : c'.reader = c.reader
  writer : c'.writer = c.writer
  blocked : ∃ reply rest, c'.Blocked reply rest

theorem reader_turn {c : Connection} (hended : c.inboxEnded = true) :
    (c.react .reader).reader = .ended ∨ (c.react .reader).intake.left < c.intake.left ∨
      c.mustWait = true ∧ c.react .reader = c ∧ ∃ reply, c.reader = .replying reply := by
  rcases exists_readerStep hended with hstop | ⟨c', hstep⟩ | ⟨hreply, hwaits, hsame⟩
  · exact .inl (react_reader_ended hstop .reader)
  · right
    left
    have hreact : c.react .reader = c' := by
      rw [react, next?, hstep]
      rfl
    rw [hreact]
    exact (step_of_reader hstep).readerTurn.left_lt
  · exact .inr (.inr ⟨hwaits, hsame, hreply⟩)

/-- Whatever happens first, turns of the writer and a turn of the reader bring the reader nearer to its end, or it is
blocked all the while. -/
theorem reader_round {c : Connection} (hregular : c.channel.Regular) (hended : c.inboxEnded = true)
    {between : List Event} (hbetween : .writer ∉ between) (n : Nat) {c' : Connection}
    (hc' : c.follow (between ++ (List.replicate (n + 1) .writer ++ [.reader])) = c') :
    c'.reader = .ended ∨ Nearer c'.readerOff c.readerOff ∨ StaysBlocked c c' := by
  rw [follow_append, follow_append] at hc'
  have hwriter := follow_writer_eq hbetween c
  obtain ⟨hended₁, hfirst⟩ := follow_left_lt_or between hended
  have hsends := (sends_turns (c.follow between) n).room (follow_regular between hregular)
  generalize c.follow between = c₁ at *
  obtain ⟨hended₂, hsecond⟩ := follow_left_lt_or (List.replicate (n + 1) .writer) hended₁
  generalize c₁.follow (List.replicate (n + 1) .writer) = c₂ at *
  have hle : c'.intake.left ≤ c₂.intake.left := hc' ▸ follow_left_le [.reader] hended₂
  have hless : c'.intake.left < c.intake.left → Nearer c'.readerOff c.readerOff := fun h => .first h _ _
  rcases hfirst with hlt | ⟨hsame₁, hreader₁⟩
  · exact .inr (.inl (hless (by omega)))
  rcases hsecond with hlt | ⟨hsame₂, hreader₂⟩
  · exact .inr (.inl (hless (by omega)))
  have hturn := reader_turn hended₂
  rw [show c₂.react .reader = c' from hc'] at hturn
  rcases hturn with hstop | hlt | ⟨hwaits, rfl, reply, hreply⟩
  · exact .inl hstop
  · exact .inr (.inl (hless (by omega)))
  -- The reader waits for room, so the writer has made none.
  right
  rcases hsends with hroom | hpassed | ⟨rfl, rest, hstalled⟩
  · cases hroom.symm.trans hwaits
  · left
    rw [readerOff, readerOff, hsame₂, hsame₁, ← hwriter]
    exact .third _ _ hpassed
  · right
    refine ⟨?_, hreader₁, hwriter, reply, rest, hreply, (Bool.and_eq_true_iff.1 hwaits).2, hstalled⟩
    rw [readerOff, readerOff, hsame₁, hwriter]

theorem react_reader_off {c : Connection} (hended : c.inboxEnded = true) :
    Nearer (c.react .reader).readerOff c.readerOff ∨ (c.react .reader).readerOff = c.readerOff := by
  have hwriter : (c.react .reader).writer = c.writer := react_writer_eq (by simp) c
  rcases (follow_left_lt_or [.reader] hended).2 with hlt | ⟨hsame, -⟩
  · exact .inl (.first hlt _ _)
  · right
    rw [readerOff, readerOff, hwriter]
    exact congrArg (·, 0, c.writer.due) hsame

theorem Rounds.reader {events : List Event} (h : Rounds .reader events) {c : Connection}
    (hregular : c.channel.Regular) (hended : c.inboxEnded = true) :
    (c.follow events).reader = .ended ∨ Nearer (c.follow events).readerOff c.readerOff ∨
      StaysBlocked c (c.follow events) := by
  induction h generalizing c with
  | one between n hbetween => exact reader_round hregular hended hbetween n rfl
  | @again xs _ ih =>
    rw [follow_append]
    rcases ih hregular hended with hstop | hnearer | hblocked
    · exact .inl (react_reader_ended hstop .reader)
    · rcases react_reader_off (follow_left_lt_or xs hended).1 with hnearer' | hsame
      · exact .inr (.inl (hnearer'.trans hnearer))
      · exact .inr (.inl (hsame ▸ hnearer))
    · obtain ⟨reply, rest, hheld⟩ := hblocked.blocked
      have hsame : (c.follow xs).follow [.reader] = c.follow xs := hheld.react
      exact .inr (.inr (hsame.symm ▸ hblocked))
  | @more xs ys _ _ ihx ihy =>
    rw [follow_append]
    have hlater := ihy (follow_regular xs hregular) (follow_left_lt_or xs hended).1
    rcases ihx hregular hended with hstop | hnearer | hblocked
    · exact .inl (follow_reader_ended ys hstop)
    · rcases hlater with hstop | hnearer' | hblocked'
      · exact .inl hstop
      · exact .inr (.inl (hnearer'.trans hnearer))
      · exact .inr (.inl (hblocked'.off ▸ hnearer))
    · rcases hlater with hstop | hnearer' | hblocked'
      · exact .inl hstop
      · exact .inr (.inl (hblocked.off ▸ hnearer'))
      · exact .inr (.inr ⟨hblocked'.off.trans hblocked.off, hblocked'.reader.trans hblocked.reader,
          hblocked'.writer.trans hblocked.writer, hblocked'.blocked⟩)

/-- A reader that has its turns comes to its end, unless it is blocked from some round on by the same reply and behind
the same bytes. -/
theorem reader_ends_iff {c : Connection} (hregular : c.channel.Regular) (hended : c.inboxEnded = true)
    {rows : Nat → List Event} (hrows : ∀ n, Rounds .reader (rows n)) :
    (∃ n, (c.along rows n).reader = .ended) ↔
      ¬∃ m reply rest, ∀ n, m ≤ n → (c.along rows n).Blocked reply rest := by
  constructor
  · rintro ⟨n, hn⟩ ⟨m, reply, rest, hblocked⟩
    have hreply := (hblocked (max n m) (Nat.le_max_right n m)).reader
    have hstop : (c.along rows (max n m)).reader = .ended :=
      along_of_le (P := (·.reader = .ended)) (fun _ events => follow_reader_ended events) (Nat.le_max_left n m) hn
    cases hreply.symm.trans hstop
  · intro hfree
    have hopen : ∀ n, (c.along rows n).inboxEnded = true := fun n => (follow_left_lt_or (firstRows rows n) hended).1
    have hends := Nearer.ends_or_held (fun n a => a = (c.along rows n).readerOff)
      (∃ n, (c.along rows n).reader = .ended) (fun n => StaysBlocked (c.along rows n) (c.along rows (n + 1)))
      ?_ (n := 0) rfl
    · rcases hends with hstop | ⟨m, hheld⟩
      · exact hstop
      · obtain ⟨reply, rest, hfirst⟩ := (hheld m (Nat.le_refl m)).blocked
        refine absurd ⟨m + 1, reply, rest, fun n hle => ?_⟩ hfree
        induction hle with
        | refl => exact hfirst
        | @step n hle ih =>
          obtain ⟨hoff, hreader, hwriter, reply', rest', hblocked⟩ := hheld n (Nat.le_of_succ_le hle)
          cases hblocked.reader.symm.trans (hreader.trans ih.reader)
          cases hblocked.stalled.writer.symm.trans (hwriter.trans ih.stalled.writer)
          exact hblocked
    · rintro n a rfl
      have hround := (hrows n).reader (follow_regular (firstRows rows n) hregular) (hopen n)
      rw [show (c.follow (firstRows rows n)).follow (rows n) = c.along rows (n + 1) from (along_succ c rows n).symm]
        at hround
      rcases hround with hstop | hnearer | hblocked
      · exact .inl ⟨n + 1, hstop⟩
      · exact .inr (.inl ⟨n + 1, _, Nat.lt_succ_self n, rfl, hnearer⟩)
      · exact .inr (.inr ⟨hblocked.off.symm, hblocked⟩)

/-- Reading a stream that has ended gives a verdict and goes forward, so repeated reading comes to the end of the stream
after at most one reading for each byte. The reader of a connection dispatches just the messages that come before the
first other verdict, unless a shutdown ends it earlier. Once the server has closed the stream the reader has a bounded
number of turns left, and when nothing can go on it has ended or is blocked. If it and the writer have their turns again
and again, it ends just if it is not blocked for good, and so behind every server that lets everything pass. -/
theorem reader_reaches_end :
    (∀ ended stream r rest, Frame.readFrom ended stream = some (r, rest) → Frame.GoesForward ended stream r rest) ∧
    (∀ stream, ∃ r rest, Frame.readFrom true stream = some (r, rest) ∧ Frame.read stream = (r, rest)) ∧
    (∀ stream, ∃ rs : List Frame.Reading, rs.length ≤ stream.length ∧ (∀ r ∈ rs, r ≠ .ended) ∧
      Frame.readCalls true rs.length stream = some (rs, []) ∧
      ∀ count, rs.length < count → Frame.readMany count stream = rs ++ [.ended]) ∧
    (∀ (c : Connection) e message registered, .dispatched message registered ∈ c.observe e →
      ∃ rest, c.react e = dispatch { c with inbox := rest } message) ∧
    ∀ name level clock target events,
      let start := opened name level clock target
      let c := start.follow events
      (∀ later, (c.inboxEnded = true → later = []) →
        let stream := start.arrived events ++ later
        ∃ behind,
          Frame.readMany (stream.length + 1) stream = (dispatched (start.history events)).map .message ++ behind ∧
          (c.reader = .ended → start.cutOff events = false →
            ∃ last tail, behind = last :: tail ∧ last.message? = none)) ∧
      (c.inboxEnded = true →
        (∀ more, c.turns more ≤ 2 * c.inbox.length + 2 ∧
          ((c.follow more).canStep = false →
            (c.follow more).reader = .ended ∨ ∃ reply rest, (c.follow more).Blocked reply rest)) ∧
        ∀ rows : Nat → List Event, (∀ n, Rounds .reader (rows n)) →
          ((∃ n, (c.along rows n).reader = .ended) ↔
            ¬∃ m reply rest, ∀ n, m ≤ n → (c.along rows n).Blocked reply rest) ∧
          (target.window = none → ∃ n, (c.along rows n).reader = .ended)) := by
  refine ⟨fun _ _ _ _ => Frame.goesForward_of_readFrom, ?_, ?_, fun _ _ _ _ => dispatch_of_observe, ?_⟩
  · intro stream
    obtain ⟨r, rest, hread, -⟩ := Frame.exists_readFrom stream
    refine ⟨r, rest, hread, ?_⟩
    rw [Frame.read, hread, Option.getD_some]
  · intro stream
    obtain ⟨rs, hlen, hnone, hcalls⟩ := Frame.exists_readings_to_end stream
    refine ⟨rs, hlen, hnone, hcalls, fun count hcount => ?_⟩
    obtain ⟨more, rfl⟩ := Nat.exists_eq_add_of_lt hcount
    rw [Nat.add_assoc, Frame.readMany_of_readCalls hcalls hnone]
    rfl
  · intro name level clock target events start c
    constructor
    · intro later hlater
      have hmany := (followed_follow name level clock target events).readMany hlater
      rw [← dispatched_history] at hmany
      exact hmany
    · intro hended
      have hregular : c.channel.Regular := follow_regular events ⟨Nat.le_refl 0, Nat.zero_le _⟩
      refine ⟨fun more => ⟨?_, ?_⟩, fun rows hrows => ?_⟩
      · have hturns := turns_le more hended
        have hleft := c.intake.left_le
        exact Nat.le_trans (Nat.le_of_add_right_le hturns) hleft
      · exact ended_or_blocked_of_rest (follow_left_lt_or more hended).1
      · have hends := reader_ends_iff hregular hended hrows
        refine ⟨hends, fun hwindow => hends.2 ?_⟩
        rintro ⟨m, reply, rest, hblocked⟩
        have hnone := follow_window_none (firstRows rows m) (follow_window_none events (c := start) hwindow)
        cases hnone.symm.trans (hblocked m (Nat.le_refl m)).stalled.window

/-- A request of the server, as it stands in a frame. -/
def smallRequest : Bytes :=
  Bytes.ofString "\x7b\"id\":1,\"method\":\"m\"\x7d"

theorem readFrom_smallRequest : Frame.readFrom true (Frame.ofBody smallRequest) =
    some (.message (.obj [("id", .ofNat 1), ("method", .str "m")]), []) := by
  have htokens : (Utf8.decode? smallRequest).bind Json.Token.lex? =
      some [.openObject, .string ("id".toList.map .char), .colon, .number ⟨false, ['1'], none, none⟩, .comma,
        .string ("method".toList.map .char), .colon, .string ("m".toList.map .char), .closeObject] := by
    decide +kernel
  exact Frame.readFrom_of_tokens true (by decide) htokens rfl

/-- The server never reads. When as many commands wait as may, it asks something and closes its output: the reader is
blocked, and nothing can go on. On another connection a shutdown gives up waiting and ends the reader before a request
that has arrived. -/
theorem reader_kept_from_end :
    let blocked := clogged.follow [.receive (Frame.ofBody smallRequest), .closeInput, .reader]
    let start := opened "asp-lsp" .off "12:00:00" {}
    let run := [.receive (Frame.ofBody smallRequest), .start (.shutdown 0)] ++ List.replicate 5 .call ++
      List.replicate 5 .writer ++ [.call]
    (blocked.inboxEnded = true ∧ blocked.canStep = false ∧ ∃ reply rest, blocked.Blocked reply rest) ∧
    ((start.follow run).reader = .ended ∧ dispatched (start.history run) = [] ∧
      Frame.readFrom true (start.arrived run) =
        some (.message (.obj [("id", .ofNat 1), ("method", .str "m")]), [])) := by
  intro blocked start run
  constructor
  · have hidle : clogged.inboxEnded = false ∧ clogged.inbox = [] ∧ clogged.intake.left = 1 := by decide +kernel
    obtain ⟨hopen, hinbox, hleft⟩ := hidle
    have hreader : clogged.reader = .reading := by
      cases hr : clogged.reader <;> simp [Intake.left, intake, hinbox, hr] at hleft ⊢
    have hreceive : clogged.react (.receive (Frame.ofBody smallRequest)) =
        { clogged with inbox := Frame.ofBody smallRequest } := by
      rw [react, (Step.receive _ hopen (by simp [hreader])).next?_eq, Option.getD_some, hinbox, List.nil_append]
    let asked : Connection := { clogged with inbox := Frame.ofBody smallRequest, inboxEnded := true }
    have hrun : blocked = asked.react .reader := by
      rw [show blocked = _ from follow_cons _ _ _, hreceive]
      rfl
    have hblocked := blocked_of_request (c := asked) hreader readFrom_smallRequest rfl clogged_full
      ⟨clogged_stalled.writer, clogged_stalled.window⟩
    rw [← hrun] at hblocked
    have hended : blocked.inboxEnded = true := hrun ▸ (follow_left_lt_or [.reader] rfl).1
    have hover : blocked.call = none := by
      rw [← call_eq_none_iff, hrun, react_owner rfl]
      exact (call_eq_none_iff clogged).2 clogged_call
    exact ⟨hended, hblocked.rests hover, _, _, hblocked⟩
  · have hended : (start.follow run).reader.isEnded = true := by decide +kernel
    have hnone : (dispatched (start.history run)).length = 0 := by decide +kernel
    have harrived : start.arrived run = Frame.ofBody smallRequest := by decide +kernel
    exact ⟨ReaderState.isEnded_iff.1 hended, List.length_eq_zero_iff.1 hnone, harrived ▸ readFrom_smallRequest⟩

end LspClient.Connection
