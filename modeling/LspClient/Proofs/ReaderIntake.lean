import LspClient.Proofs.FrameProgress
import LspClient.Proofs.RequestHistory

/-!
# What the reader of a connection reads

The reader's part of a connection is the stream as far as it has arrived and not been read, whether the server has
closed it, and the reader's standing. `Take` lists what one event can do to that part. What the reader has read so far
is then what successive readings of the whole stream give, however the stream arrived and whatever happened meanwhile,
and the messages among it are those that were dispatched.
-/

namespace LspClient

def Frame.Reading.message? : Frame.Reading → Option Json
  | .message v => some v
  | _ => none

def ReaderState.isEnded : ReaderState → Bool
  | .ended => true
  | _ => false

theorem ReaderState.isEnded_iff {reader : ReaderState} : reader.isEnded = true ↔ reader = .ended := by
  cases reader <;> simp [ReaderState.isEnded]

namespace Connection

structure Intake where
  inbox : Bytes
  ended : Bool
  reader : ReaderState

def intake (c : Connection) : Intake :=
  ⟨c.inbox, c.inboxEnded, c.reader⟩

/-- All that a turn of the reader can do, with what it reads. -/
inductive ReaderTurn (i : Intake) : List Frame.Reading → Intake → Prop where
  | reads {v : Json} {rest : Bytes} {reader : ReaderState} (hreader : i.reader = .reading)
      (hread : Frame.readFrom i.ended i.inbox = some (.message v, rest)) (hnext : reader ≠ .ended) :
      ReaderTurn i [.message v] { i with inbox := rest, reader := reader }
  | stops {r : Frame.Reading} {rest : Bytes} (hreader : i.reader = .reading)
      (hread : Frame.readFrom i.ended i.inbox = some (r, rest)) (hr : r.message? = none) :
      ReaderTurn i [r] { i with inbox := rest, reader := .ended }
  | replies {reply : Json} (hreader : i.reader = .replying reply) : ReaderTurn i [] { i with reader := .reading }

/-- What the reader reads at an event. -/
def reads (c : Connection) : Event → List Frame.Reading
  | .reader =>
    match c.reader, Frame.readFrom c.inboxEnded c.inbox with
    | .reading, some (r, _) => [r]
    | _, _ => []
  | _ => []

/-- All that an event can do to the reader's part, with the bytes that arrive, what is read and whether a shutdown
ends a reader that is still at work. -/
inductive Take (i : Intake) : Bytes → List Frame.Reading → Bool → Intake → Prop where
  | idle : Take i [] [] false i
  | arrives (bytes : Bytes) (hopen : i.ended = false) (hreader : i.reader ≠ .ended) :
      Take i bytes [] false { i with inbox := i.inbox ++ bytes }
  | closes : Take i [] [] false { i with ended := true }
  | cut (hreader : i.reader ≠ .ended) : Take i [] [] true { i with reader := .ended }
  | turn {rs : List Frame.Reading} {i' : Intake} (h : ReaderTurn i rs i') : Take i [] rs false i'

def arriving (c : Connection) : Event → Bytes
  | .receive bytes => if (c.receive bytes).isOk then bytes else []
  | _ => []

/-- Whether a shutdown, in its last step, ends the reader while it is still at work. -/
def cuts (c : Connection) : Event → Bool
  | .call => !c.reader.isEnded && (c.react .call).reader.isEnded
  | _ => false

theorem reads_of_none {c : Connection} {e : Event} (h : c.next? e = none) : c.reads e = [] := by
  cases e with
  | reader =>
    simp only [next?, readerStep] at h
    simp only [reads]
    split
    · rename_i r rest hreader hread
      cases r <;> simp [hreader, hread] at h
    · rfl
  | _ => rfl

theorem reads_eq {c : Connection} {r : Frame.Reading} {rest : Bytes} (hreader : c.reader = .reading)
    (hread : Frame.readFrom c.inboxEnded c.inbox = some (r, rest)) : c.reads .reader = [r] := by
  simp only [reads, hreader, hread]

theorem Step.readerTurn {c c' : Connection} (h : Step c .reader c') :
    ReaderTurn c.intake (c.reads .reader) c'.intake := by
  cases h with
  | reply reply hreader hroom =>
    have hreads : c.reads .reader = [] := by simp only [reads, hreader]
    have hsent : (c.sendReply reply).intake = { c.intake with reader := .reading } := by
      simp [intake, sendReply, hroom]
    rw [hreads, hsent]
    exact .replies hreader
  | response v rest id body hreader hread hclass =>
    rw [reads_eq hreader hread]
    exact .reads (i := c.intake) hreader hread (by rw [hreader]; nofun)
  | request v rest id method hreader hread hclass =>
    rw [reads_eq hreader hread]
    refine .reads (i := c.intake) hreader hread ?_
    simp only [sendReply]
    split <;> nofun
  | notification v rest method params hreader hread hclass =>
    rw [reads_eq hreader hread]
    exact .reads (i := c.intake) hreader hread (by rw [hreader]; nofun)
  | noise v rest hreader hread hclass =>
    rw [reads_eq hreader hread]
    exact .reads (i := c.intake) hreader hread (by rw [hreader]; nofun)
  | finish rest hreader hread =>
    rw [reads_eq hreader hread]
    exact .stops (i := c.intake) hreader hread rfl
  | giveUp e rest hreader hread =>
    rw [reads_eq hreader hread]
    exact .stops (i := c.intake) hreader hread rfl

/-- Of all that a call does, only the last step of a shutdown reaches the reader. -/
theorem Step.intake_call {c c' : Connection} (h : Step c .call c') :
    c'.intake = c.intake ∨ c'.intake = { c.intake with reader := .ended } := by
  cases h with
  | join => exact .inr rfl
  | _ => exact .inl rfl

theorem call_take (c : Connection) : Take c.intake [] [] (c.cuts .call) (c.react .call).intake := by
  have hview : (c.react .call).reader = (c.react .call).intake.reader := rfl
  have hsame : (c.react .call).intake = c.intake → Take c.intake [] [] (c.cuts .call) (c.react .call).intake := by
    intro h
    rw [cuts, hview, h, show c.intake.reader = c.reader from rfl, Bool.not_and_self]
    exact .idle
  rcases react_cases c .call with ⟨-, hstays⟩ | hstep
  · exact hsame (congrArg intake hstays)
  · rcases hstep.intake_call with h | h
    · exact hsame h
    · cases hr : c.reader.isEnded with
      | true =>
        refine hsame (h.trans ?_)
        rw [← ReaderState.isEnded_iff.mp hr]
        rfl
      | false =>
        rw [cuts, hview, h, hr]
        refine .cut fun hended => ?_
        have htrue : c.reader.isEnded = true := ReaderState.isEnded_iff.mpr hended
        rw [hr] at htrue
        cases htrue

theorem Step.takes {c c' : Connection} {e : Event} (h : Step c e c') (he : e ≠ .call) :
    Take c.intake (c.arriving e) (c.reads e) false c'.intake := by
  cases e with
  | reader => exact .turn h.readerTurn
  | call => exact absurd rfl he
  | start goal => cases h <;> exact .idle
  | cancel => cases h; exact .idle
  | receive bytes =>
    have hnext := h.next?_eq
    cases h with
    | receive _ hopen hreader =>
      have harriving : c.arriving (.receive bytes) = bytes := by
        simp only [next?, Except.toOption] at hnext
        simp only [arriving]
        split at hnext
        · simp_all [Except.isOk, Except.toBool]
        · cases hnext
      rw [harriving]
      exact .arrives (i := c.intake) bytes hopen hreader
  | closeInput => cases h; exact .closes
  | closeOutput failure => cases h; exact .idle
  | drain n => cases h; exact .idle
  | advance ms => cases h; exact .idle
  | writer => cases h <;> exact .idle

theorem arriving_of_none {c : Connection} {e : Event} (h : c.next? e = none) : c.arriving e = [] := by
  cases e with
  | receive bytes =>
    simp only [next?, Except.toOption] at h
    simp only [arriving]
    split at h
    · cases h
    · rename_i refused
      simp [refused, Except.isOk, Except.toBool]
  | _ => rfl

theorem react_take (c : Connection) (e : Event) :
    Take c.intake (c.arriving e) (c.reads e) (c.cuts e) (c.react e).intake := by
  by_cases he : e = .call
  · rw [he]
    exact call_take c
  · have hcuts : c.cuts e = false := by
      cases e with
      | call => exact absurd rfl he
      | _ => rfl
    rw [hcuts]
    rcases react_cases c e with ⟨hnone, hstays⟩ | hstep
    · rw [hstays, arriving_of_none hnone, reads_of_none hnone]
      exact .idle
    · exact hstep.takes he

def arrived (c : Connection) : List Event → Bytes
  | [] => []
  | e :: events => c.arriving e ++ (c.react e).arrived events

def readings (c : Connection) : List Event → List Frame.Reading
  | [] => []
  | e :: events => c.reads e ++ (c.react e).readings events

/-- Whether a shutdown ended the reader at some event of a run. -/
def cutOff (c : Connection) : List Event → Bool
  | [] => false
  | e :: events => c.cuts e || (c.react e).cutOff events

/-- What every event keeps, with what arrives and what is read, holds after every run. -/
theorem follow_intake {P : Intake → Bytes → List Frame.Reading → Bool → Prop}
    (step : ∀ {i i' : Intake} {stream bytes : Bytes} {rs new : List Frame.Reading} {cut cuts : Bool},
      P i stream rs cut → Take i bytes new cuts i' → P i' (stream ++ bytes) (rs ++ new) (cut || cuts))
    (events : List Event) {c : Connection} (stream : Bytes) (rs : List Frame.Reading) (cut : Bool)
    (h : P c.intake stream rs cut) :
    P (c.follow events).intake (stream ++ c.arrived events) (rs ++ c.readings events) (cut || c.cutOff events) := by
  induction events generalizing c stream rs cut with
  | nil => simpa [arrived, readings, cutOff] using h
  | cons e events ih =>
    rw [follow_cons, arrived, readings, cutOff, ← List.append_assoc, ← List.append_assoc, ← Bool.or_assoc]
    exact ih _ _ _ (step h (react_take c e))

/-- Messages, and then what ended the reader unless it is still at work or was cut off. -/
inductive Read (i : Intake) (ms : List Json) (cut : Bool) : List Frame.Reading → Prop where
  | soFar (h : i.reader = .ended → cut = true) : Read i ms cut (ms.map .message)
  | toEnd {last : Frame.Reading} (hlast : last.message? = none) (h : i.reader = .ended) :
      Read i ms cut (ms.map .message ++ [last])

/-- The reader has read what successive readings of the stream give, and stands behind that. -/
structure Followed (i : Intake) (stream : Bytes) (rs : List Frame.Reading) (cut : Bool) : Prop where
  calls : Frame.readCalls i.ended rs.length stream = some (rs, i.inbox)
  read : ∃ ms, Read i ms cut rs

/-- Nothing is read and the reader is not set going again. -/
theorem Read.keep {i i' : Intake} {ms : List Json} {cut cut' : Bool} {rs : List Frame.Reading}
    (h : Read i ms cut rs) (hended : i.reader = .ended → i'.reader = .ended)
    (hstop : i'.reader = .ended → i.reader = .ended ∨ cut' = true) (hcut : cut = true → cut' = true) :
    Read i' ms cut' rs := by
  cases h with
  | soFar h =>
    refine .soFar fun hi' => ?_
    rcases hstop hi' with hi | hcut'
    · exact hcut (h hi)
    · exact hcut'
  | toEnd hlast h => exact .toEnd hlast (hended h)

/-- A reader that is at work has read messages only. -/
theorem Read.eq_of_ne {i : Intake} {ms : List Json} {cut : Bool} {rs : List Frame.Reading} (h : Read i ms cut rs)
    (hreader : i.reader ≠ .ended) : rs = ms.map .message := by
  cases h with
  | soFar h => rfl
  | toEnd hlast h => exact absurd h hreader

theorem Followed.turn {i i' : Intake} {stream : Bytes} {rs new : List Frame.Reading} {cut : Bool}
    (h : Followed i stream rs cut) (hturn : ReaderTurn i new i') : Followed i' stream (rs ++ new) cut := by
  obtain ⟨ms, hread⟩ := h.read
  cases hturn with
  | @reads v rest reader hreader hfrom hnext =>
    obtain rfl := hread.eq_of_ne (by rw [hreader]; nofun)
    refine ⟨?_, ms ++ [v], ?_⟩
    · rw [List.length_append]
      exact Frame.readCalls_concat h.calls hfrom
    · rw [show ms.map Frame.Reading.message ++ [.message v] = (ms ++ [v]).map .message by simp]
      exact .soFar fun hended => absurd hended hnext
  | stops hreader hfrom hr =>
    obtain rfl := hread.eq_of_ne (by rw [hreader]; nofun)
    refine ⟨?_, ms, .toEnd hr rfl⟩
    rw [List.length_append]
    exact Frame.readCalls_concat h.calls hfrom
  | replies hreader =>
    obtain rfl := hread.eq_of_ne (by rw [hreader]; nofun)
    rw [List.append_nil]
    exact ⟨h.calls, ms, .soFar nofun⟩

theorem Followed.step {i i' : Intake} {stream bytes : Bytes} {rs new : List Frame.Reading} {cut cuts : Bool}
    (h : Followed i stream rs cut) (htake : Take i bytes new cuts i') :
    Followed i' (stream ++ bytes) (rs ++ new) (cut || cuts) := by
  obtain ⟨ms, hread⟩ := h.read
  have hcalls := h.calls
  cases htake with
  | idle => simpa using h
  | arrives bytes hopen hreader =>
    rw [List.append_nil, Bool.or_false]
    refine ⟨?_, ms, hread.keep id .inl id⟩
    rw [hopen] at hcalls ⊢
    exact Frame.readCalls_extend false _ hcalls
  | closes =>
    rw [List.append_nil, List.append_nil, Bool.or_false]
    refine ⟨?_, ms, hread.keep id .inl id⟩
    cases hended : i.ended with
    | true => rwa [hended] at hcalls
    | false =>
      rw [hended] at hcalls
      have hmore := Frame.readCalls_extend true [] hcalls
      rwa [List.append_nil, List.append_nil] at hmore
  | cut hreader =>
    rw [List.append_nil, List.append_nil, Bool.or_true]
    exact ⟨hcalls, ms, hread.keep (fun _ => rfl) (fun _ => .inr rfl) fun _ => rfl⟩
  | turn hturn =>
    rw [List.append_nil, Bool.or_false]
    exact h.turn hturn

theorem followed_follow (name : String) (level : TraceLevel) (clock : String) (target : Target)
    (events : List Event) :
    let c := opened name level clock target
    Followed (c.follow events).intake (c.arrived events) (c.readings events) (c.cutOff events) := by
  have hopened : Followed (opened name level clock target).intake [] [] false := ⟨rfl, [], .soFar nofun⟩
  exact follow_intake (fun h htake => h.step htake) events [] [] false hopened

def Note.message? : Note → Option Json
  | .dispatched message _ => some message
  | _ => none

/-- The messages that were dispatched. -/
def dispatched (notes : List Note) : List Json :=
  notes.filterMap Note.message?

theorem dispatched_notes (c : Connection) (e : Event) :
    dispatched (c.notes e) = (c.reads e).filterMap Frame.Reading.message? := by
  cases e with
  | start goal =>
    simp only [notes]
    split
    · split <;> rfl
    · rfl
  | cancel => cases h : c.requestId? <;> simp [notes, h, dispatched, Note.message?, reads]
  | writer =>
    simp only [notes]
    split
    · split <;> rfl
    · rfl
  | call =>
    simp only [notes]
    split
    · split <;> rfl
    all_goals rfl
  | reader =>
    simp only [notes, reads]
    cases c.reader with
    | ended => rfl
    | replying reply => rfl
    | reading =>
      cases Frame.readFrom c.inboxEnded c.inbox with
      | none => rfl
      | some result =>
        obtain ⟨r, rest⟩ := result
        cases r <;> rfl
  | _ => rfl

theorem dispatched_observe (c : Connection) (e : Event) :
    dispatched (c.observe e) = (c.reads e).filterMap Frame.Reading.message? := by
  rcases react_cases c e with ⟨hnone, -⟩ | hstep
  · rw [observe, seen_of_none hnone, reads_of_none hnone]
    rfl
  · rw [observe, hstep.seen_eq]
    exact dispatched_notes c e

theorem dispatched_history (c : Connection) (events : List Event) :
    dispatched (c.history events) = (c.readings events).filterMap Frame.Reading.message? := by
  induction events generalizing c with
  | nil => rfl
  | cons e events ih =>
    have hobserve := dispatched_observe c e
    have hrest := ih (c.react e)
    unfold dispatched at hobserve hrest ⊢
    rw [history, readings, List.filterMap_append, List.filterMap_append, hobserve, hrest]

theorem Read.messages {i : Intake} {ms : List Json} {cut : Bool} {rs : List Frame.Reading} (h : Read i ms cut rs) :
    rs.filterMap Frame.Reading.message? = ms := by
  have hms : (ms.map Frame.Reading.message).filterMap Frame.Reading.message? = ms := by
    simp [List.filterMap_map, Function.comp_def, Frame.Reading.message?]
  cases h with
  | soFar h => exact hms
  | toEnd hlast h => simp [hms, hlast]

theorem ne_ended_of_map (ms : List Json) : ∀ r ∈ ms.map Frame.Reading.message, r ≠ .ended := by
  intro r hr
  obtain ⟨v, -, rfl⟩ := List.mem_map.mp hr
  nofun

/-- What was read is what successive readings give of the stream with all that may still arrive. -/
theorem Followed.calls_later {i : Intake} {stream later : Bytes} {rs : List Frame.Reading} {cut : Bool}
    (h : Followed i stream rs cut) (hlater : i.ended = true → later = []) :
    Frame.readCalls true rs.length (stream ++ later) = some (rs, i.inbox ++ later) := by
  have hcalls := h.calls
  cases hended : i.ended with
  | false =>
    rw [hended] at hcalls
    exact Frame.readCalls_extend true later hcalls
  | true =>
    rw [hended] at hcalls
    rw [hlater hended, List.append_nil, List.append_nil]
    exact hcalls

theorem Followed.readMany {i : Intake} {stream later : Bytes} {rs : List Frame.Reading} {cut : Bool}
    (h : Followed i stream rs cut) (hlater : i.ended = true → later = []) :
    ∃ behind, Frame.readMany ((stream ++ later).length + 1) (stream ++ later) =
        (rs.filterMap Frame.Reading.message?).map .message ++ behind ∧
      (i.reader = .ended → cut = false → ∃ last tail, behind = last :: tail ∧ last.message? = none) := by
  have hcalls := h.calls_later hlater
  obtain ⟨ms, hread⟩ := h.read
  rw [hread.messages]
  have hms := ne_ended_of_map ms
  -- There are more calls than messages, so a call is left for what comes behind them.
  have hcall : ∀ {rest : Bytes},
      Frame.readCalls true (ms.map Frame.Reading.message).length (stream ++ later) = some (ms.map .message, rest) →
        ∃ more, Frame.readMany ((stream ++ later).length + 1) (stream ++ later) =
          ms.map .message ++ Frame.readMany (more + 1) rest := by
    intro rest hcalls
    have hcount := Frame.count_le_of_readCalls hcalls hms
    refine ⟨(stream ++ later).length - (ms.map Frame.Reading.message).length, ?_⟩
    rw [← Frame.readMany_of_readCalls hcalls hms]
    congr 1
    omega
  cases hread with
  | soFar hstop =>
    obtain ⟨more, hmany⟩ := hcall hcalls
    refine ⟨_, hmany, fun hended hcut => ?_⟩
    rw [hstop hended] at hcut
    cases hcut
  | @toEnd last hlast hstop =>
    rw [List.length_append] at hcalls
    obtain ⟨behind, hcalls, hlastRead⟩ := Frame.exists_of_readCalls_concat hcalls
    obtain ⟨more, hmany⟩ := hcall hcalls
    obtain ⟨tail, htail⟩ := Frame.exists_readMany hlastRead more
    exact ⟨_, hmany, fun _ _ => ⟨last, tail, htail, hlast⟩⟩

theorem readFrom_of_reads {c : Connection} {e : Event} {r : Frame.Reading} (h : r ∈ c.reads e) :
    e = .reader ∧ c.reader = .reading ∧ ∃ rest, Frame.readFrom c.inboxEnded c.inbox = some (r, rest) := by
  unfold reads at h
  split at h
  · split at h
    · rename_i r' rest hreader hread
      rw [List.mem_singleton.mp h]
      exact ⟨rfl, hreader, rest, hread⟩
    · cases h
  · cases h

/-- A message that is noted as dispatched is dispatched. -/
theorem dispatch_of_observe {c : Connection} {e : Event} {message : Json} {registered : List Nat}
    (h : .dispatched message registered ∈ c.observe e) :
    ∃ rest, c.react e = dispatch { c with inbox := rest } message := by
  have hmem : message ∈ dispatched (c.observe e) := List.mem_filterMap.mpr ⟨_, h, rfl⟩
  rw [dispatched_observe] at hmem
  obtain ⟨r, hr, hmessage⟩ := List.mem_filterMap.mp hmem
  obtain ⟨rfl, hreader, rest, hread⟩ := readFrom_of_reads hr
  cases r with
  | message v =>
    cases hmessage
    refine ⟨rest, ?_⟩
    rw [react, (step_of_dispatch hreader hread).next?_eq, Option.getD_some]
  | ended => cases hmessage
  | failed e => cases hmessage

end Connection

end LspClient
