import LspClient.Proofs.FrameGrammar
import LspClient.Proofs.FrameTruncation

/-!
# Reading goes forward

A stream that has ended gives a verdict at every reading. Only the empty stream gives its end; every other verdict,
failures included, leaves less than there was. So successive readings come to the end after at most one reading for
each byte.

A verdict on a stream that is still open stays the same whatever arrives later.
-/

namespace LspClient

/-- The failures of reading a header block. -/
def FrameError.isOfHeaders : FrameError → Bool
  | .stream (.notText _) => true
  | .truncatedHeaders => true
  | .missingContentLength => true
  | .invalidContentLength _ => true
  | _ => false

namespace Frame

theorem takeLine_verdict {given : Option Nat} {line : Bytes} {v : Headers} (h : takeLine given line = .verdict v) :
    v ≠ .ended ∧ ∀ e, v = .failed e → e.isOfHeaders := by
  unfold takeLine at h
  split at h
  · cases h
    exact ⟨nofun, fun e he => by cases he; rfl⟩
  · split at h
    · split at h <;> cases h
      · exact ⟨nofun, nofun⟩
      · exact ⟨nofun, fun e he => by cases he; rfl⟩
    · cases h
    · cases h
      exact ⟨nofun, fun e he => by cases he; rfl⟩
    · cases h

/-- What reading a header block can come to, where `line` is the line begun. -/
structure HeadersRead (started : Bool) (line stream : Bytes) (v : Headers) (rest : Bytes) : Prop where
  suffix : rest <:+ stream
  proper : stream ≠ [] → rest.length < stream.length
  ended : v = .ended → stream = [] ∧ line = [] ∧ started = false
  failed : ∀ e, v = .failed e → e.isOfHeaders

/-- The first byte is taken in any case. -/
theorem HeadersRead.cons {started started' : Bool} {line line' rest stream : Bytes} {v : Headers}
    (h : HeadersRead started' line' stream v rest) (hgo : line' ≠ [] ∨ started' = true) (b : UInt8) :
    HeadersRead started line (b :: stream) v rest := by
  refine ⟨h.suffix.trans (List.suffix_cons b stream), fun _ => ?_, fun hv => ?_, h.failed⟩
  · exact Nat.lt_succ_of_le h.suffix.length_le
  · obtain ⟨-, hline, hstarted⟩ := h.ended hv
    rcases hgo with hgo | hgo
    · exact absurd hline hgo
    · rw [hgo] at hstarted
      cases hstarted

theorem headersRead_of_readHeaders {ended started : Bool} {given : Option Nat} {line stream rest : Bytes}
    {v : Headers} (h : readHeaders ended started given line stream = some (v, rest)) :
    HeadersRead started line stream v rest := by
  induction stream generalizing started given line with
  | nil =>
    have hproper : ([] : Bytes) ≠ [] → ([] : Bytes).length < ([] : Bytes).length := fun hne => absurd rfl hne
    have hfailed : HeadersRead started line [] (.failed .truncatedHeaders) [] := by
      refine ⟨List.suffix_rfl, hproper, fun hended => ?_, fun e he => ?_⟩
      · cases hended
      · cases he
        rfl
    rw [readHeaders] at h
    split at h
    · cases h
    · split at h
      · rename_i hline
        split at h <;> cases h
        · exact hfailed
        · rename_i hstarted
          refine ⟨List.suffix_rfl, hproper, fun _ => ⟨rfl, hline, by simpa using hstarted⟩, fun e he => ?_⟩
          cases he
      · split at h <;> cases h
        · rename_i htake
          obtain ⟨hended, herrors⟩ := takeLine_verdict htake
          exact ⟨List.suffix_rfl, hproper, fun hv => absurd hv hended, herrors⟩
        · exact hfailed
  | cons b stream ih =>
    rw [readHeaders] at h
    split at h
    · split at h
      · rename_i htake
        cases h
        obtain ⟨hended, herrors⟩ := takeLine_verdict htake
        exact ⟨List.suffix_cons b _, fun _ => Nat.lt_succ_self _, fun hv => absurd hv hended, herrors⟩
      · exact (ih h).cons (.inr rfl) b
    · exact (ih h).cons (.inl (List.cons_ne_nil b line)) b

theorem exists_readHeaders (started : Bool) (given : Option Nat) (line stream : Bytes) :
    ∃ v rest, readHeaders true started given line stream = some (v, rest) := by
  induction stream generalizing started given line with
  | nil =>
    rw [readHeaders]
    simp only [Bool.not_true, Bool.false_eq_true, if_false]
    split
    · exact ⟨_, _, rfl⟩
    · split <;> exact ⟨_, _, rfl⟩
  | cons b stream ih =>
    rw [readHeaders]
    split
    · split
      · exact ⟨_, _, rfl⟩
      · exact ih _ _ _
    · exact ih _ _ _

theorem exists_readBody (n : Nat) (stream : Bytes) : ∃ r rest, readBody true n stream = some (r, rest) := by
  unfold readBody
  split
  · exact ⟨_, _, rfl⟩
  · dsimp only
    split
    · exact ⟨_, _, rfl⟩
    · split <;> exact ⟨_, _, rfl⟩

theorem BodyRead.suffix {ended : Bool} {n : Nat} {stream rest : Bytes} {r : Reading}
    (h : BodyRead ended n stream r rest) : rest <:+ stream := by
  cases h with
  | tooLarge h => exact List.suffix_rfl
  | short hended hn h => exact List.nil_suffix
  | @whole body rest hn hstream hlen => exact ⟨body, hstream.symm⟩

theorem readingOf_ne (body : Bytes) : readingOf body ≠ .ended ∧
    ∀ e, readingOf body = .failed e → e = .malformedBody := by
  unfold readingOf
  split
  · exact ⟨nofun, nofun⟩
  · exact ⟨nofun, fun e he => by cases he; rfl⟩

theorem BodyRead.ne_ended {ended : Bool} {n : Nat} {stream rest : Bytes} {r : Reading}
    (h : BodyRead ended n stream r rest) : r ≠ .ended := by
  cases h with
  | tooLarge h => nofun
  | short hended hn h => nofun
  | @whole body rest hn hstream hlen => exact (readingOf_ne body).1

/-- Where a reading leaves a stream: at its end if there is nothing to read, else further on. A body that is too large
is not touched, and a body that is too short is used up. -/
structure GoesForward (ended : Bool) (stream : Bytes) (r : Reading) (rest : Bytes) : Prop where
  ended_iff : r = .ended ↔ stream = []
  suffix : rest <:+ stream
  proper : stream ≠ [] → rest.length < stream.length
  tooLarge : ∀ n, r = .failed (.tooLarge n) →
    maxFrameBytes < n ∧ ∃ lines blank, HeaderBlock lines blank n ∧ Opens ended none stream n rest lines blank
  short : r = .failed (.stream .earlyEof) → rest = []

theorem goesForward_of_readFrom {ended : Bool} {stream rest : Bytes} {r : Reading}
    (h : readFrom ended stream = some (r, rest)) : GoesForward ended stream r rest := by
  unfold readFrom at h
  split at h
  · cases h
  · rename_i n behind hheaders
    have hread := headersRead_of_readHeaders hheaders
    have hbody := bodyRead_of_readBody h
    have hne : stream ≠ [] := by
      rintro rfl
      -- An empty stream gives no length.
      cases ended <;> cases hheaders
    refine ⟨⟨fun hr => absurd hr hbody.ne_ended, fun hs => absurd hs hne⟩, hbody.suffix.trans hread.suffix,
      fun _ => Nat.lt_of_le_of_lt hbody.suffix.length_le (hread.proper hne), ?_, ?_⟩
    · rintro k rfl
      generalize hr : Reading.failed (.tooLarge k) = r at hbody
      cases hbody with
      | tooLarge hmax =>
        cases hr
        obtain ⟨lines, blank, hopens⟩ := opens_of_readHeaders ended hheaders
        exact ⟨hmax, lines, blank, hopens.block, hopens⟩
      | short hended hn hlen => cases hr
      | @whole body rest hn hstream hlen => cases (readingOf_ne body).2 _ hr.symm
    · rintro rfl
      generalize hr : Reading.failed (.stream .earlyEof) = r at hbody
      cases hbody with
      | tooLarge hmax => cases hr
      | short hended hn hlen => rfl
      | @whole body rest hn hstream hlen => cases (readingOf_ne body).2 _ hr.symm
  · rename_i hheaders
    cases h
    have hread := headersRead_of_readHeaders hheaders
    exact ⟨⟨fun _ => (hread.ended rfl).1, fun _ => rfl⟩, hread.suffix, hread.proper, nofun, nofun⟩
  · rename_i hheaders
    cases h
    have hread := headersRead_of_readHeaders hheaders
    have herror := hread.failed _ rfl
    refine ⟨⟨nofun, ?_⟩, hread.suffix, hread.proper, ?_, ?_⟩
    · rintro rfl
      cases ended <;> cases hheaders
    · rintro n hn
      cases hn
      cases herror
    · rintro he
      cases he
      cases herror

theorem exists_readFrom (stream : Bytes) :
    ∃ r rest, readFrom true stream = some (r, rest) ∧ GoesForward true stream r rest := by
  obtain ⟨v, behind, hheaders⟩ := exists_readHeaders false none [] stream
  obtain ⟨r, rest, hread⟩ : ∃ r rest, readFrom true stream = some (r, rest) := by
    unfold readFrom
    rw [hheaders]
    cases v with
    | length n => exact exists_readBody n behind
    | ended => exact ⟨_, _, rfl⟩
    | failed e => exact ⟨_, _, rfl⟩
  exact ⟨r, rest, hread, goesForward_of_readFrom hread⟩

/-- The induction is on the length of the stream, which every reading shortens until nothing is left. -/
theorem exists_readings_to_end (stream : Bytes) :
    ∃ rs : List Reading, rs.length ≤ stream.length ∧ (∀ r ∈ rs, r ≠ .ended) ∧
      readCalls true rs.length stream = some (rs, []) := by
  induction hlen : stream.length using Nat.strongRecOn generalizing stream with
  | ind len ih =>
    by_cases hs : stream = []
    · subst hs
      exact ⟨[], Nat.zero_le _, nofun, rfl⟩
    · obtain ⟨r, rest, hread, hforward⟩ := exists_readFrom stream
      have hshort := hforward.proper hs
      obtain ⟨rs, hrs, hnone, hcalls⟩ := ih rest.length (by omega) rest rfl
      refine ⟨r :: rs, by simp only [List.length_cons]; omega, ?_, ?_⟩
      · intro r' hr'
        rcases List.mem_cons.mp hr' with rfl | hr'
        · exact fun hended => hs (hforward.ended_iff.mp hended)
        · exact hnone r' hr'
      · rw [List.length_cons, readCalls, hread]
        simp only [hcalls, Option.map_some]

theorem readMany_cons {stream rest : Bytes} {r : Reading} (h : readFrom true stream = some (r, rest))
    (hr : r ≠ .ended) (count : Nat) : readMany (count + 1) stream = r :: readMany count rest := by
  rw [readMany, read, h, Option.getD_some]
  cases r with
  | message v => rfl
  | ended => exact absurd rfl hr
  | failed e => rfl

theorem exists_readMany {stream rest : Bytes} {r : Reading} (h : readFrom true stream = some (r, rest)) (count : Nat) :
    ∃ tail, readMany (count + 1) stream = r :: tail := by
  rw [readMany, read, h, Option.getD_some]
  cases r <;> exact ⟨_, rfl⟩

theorem readMany_of_readCalls {count : Nat} {stream rest : Bytes} {rs : List Reading}
    (h : readCalls true count stream = some (rs, rest)) (hnone : ∀ r ∈ rs, r ≠ .ended) (more : Nat) :
    readMany (count + more) stream = rs ++ readMany more rest := by
  induction count generalizing stream rs with
  | zero =>
    cases h
    rw [Nat.zero_add, List.nil_append]
  | succ count ih =>
    rw [readCalls] at h
    split at h
    · cases h
    · rename_i r behind hread
      obtain ⟨⟨rs', rest'⟩, hcalls, heq⟩ := Option.map_eq_some_iff.mp h
      cases heq
      obtain ⟨hr, hrs⟩ := List.forall_mem_cons.mp hnone
      rw [Nat.succ_add, readMany_cons hread hr, ih hcalls hrs, List.cons_append]

/-- As long as the end does not show, there are no more readings than bytes taken. -/
theorem count_le_of_readCalls {ended : Bool} {count : Nat} {stream rest : Bytes} {rs : List Reading}
    (h : readCalls ended count stream = some (rs, rest)) (hnone : ∀ r ∈ rs, r ≠ .ended) :
    count + rest.length ≤ stream.length := by
  induction count generalizing stream rs with
  | zero =>
    cases h
    simp
  | succ count ih =>
    rw [readCalls] at h
    split at h
    · cases h
    · rename_i r behind hread
      obtain ⟨⟨rs', rest'⟩, hcalls, heq⟩ := Option.map_eq_some_iff.mp h
      cases heq
      have hforward := goesForward_of_readFrom hread
      obtain ⟨hr, hrs⟩ := List.forall_mem_cons.mp hnone
      have hproper := hforward.proper fun hs => hr (hforward.ended_iff.mpr hs)
      have hrest := ih hcalls hrs
      omega

section Extend
variable (ended : Bool) (more : Bytes)

theorem readHeaders_extend {started : Bool} {given : Option Nat} {line stream rest : Bytes} {v : Headers}
    (h : readHeaders false started given line stream = some (v, rest)) :
    readHeaders ended started given line (stream ++ more) = some (v, rest ++ more) := by
  induction stream generalizing started given line with
  | nil => cases h
  | cons b stream ih =>
    rw [List.cons_append, readHeaders]
    rw [readHeaders] at h
    split at h
    · rename_i hb
      rw [if_pos hb]
      split at h
      · cases h
        rfl
      · exact ih h
    · rename_i hb
      rw [if_neg hb]
      exact ih h

theorem readBody_extend {n : Nat} {stream rest : Bytes} {r : Reading} (h : readBody false n stream = some (r, rest)) :
    readBody ended n (stream ++ more) = some (r, rest ++ more) := by
  cases bodyRead_of_readBody h with
  | tooLarge hmax => rw [readBody, if_pos hmax]
  | short hended hn hlen => cases hended
  | @whole body rest hn hstream hlen =>
    subst hlen
    rw [hstream, List.append_assoc]
    exact readBody_append ended hn (rest ++ more)

theorem readFrom_extend {stream rest : Bytes} {r : Reading} (h : readFrom false stream = some (r, rest)) :
    readFrom ended (stream ++ more) = some (r, rest ++ more) := by
  unfold readFrom at h
  split at h
  · cases h
  · rename_i n behind hheaders
    rw [readFrom, readHeaders_extend ended more hheaders]
    exact readBody_extend ended more h
  · rename_i hheaders
    cases h
    rw [readFrom, readHeaders_extend ended more hheaders]
  · rename_i hheaders
    cases h
    rw [readFrom, readHeaders_extend ended more hheaders]

/-- Readings of an open stream stay what they are when more arrives or when the stream ends. -/
theorem readCalls_extend {count : Nat} {stream rest : Bytes} {rs : List Reading}
    (h : readCalls false count stream = some (rs, rest)) :
    readCalls ended count (stream ++ more) = some (rs, rest ++ more) := by
  induction count generalizing stream rs with
  | zero =>
    cases h
    rfl
  | succ count ih =>
    rw [readCalls] at h
    split at h
    · cases h
    · rename_i r behind hread
      obtain ⟨⟨rs', rest'⟩, hcalls, heq⟩ := Option.map_eq_some_iff.mp h
      cases heq
      rw [readCalls, readFrom_extend ended more hread]
      simp only [ih hcalls, Option.map_some]

end Extend

theorem exists_of_readCalls_concat {ended : Bool} {count : Nat} {stream rest : Bytes} {rs : List Reading} {r : Reading}
    (h : readCalls ended (count + 1) stream = some (rs ++ [r], rest)) :
    ∃ behind, readCalls ended count stream = some (rs, behind) ∧ readFrom ended behind = some (r, rest) := by
  rw [readCalls_add] at h
  obtain ⟨⟨rs', behind⟩, hcalls, h⟩ := Option.bind_eq_some_iff.mp h
  cases hread : readFrom ended behind with
  | none => simp [readCalls, hread] at h
  | some result =>
    obtain ⟨r', rest'⟩ := result
    simp only [readCalls, hread, Option.map_some, Option.some_inj, Prod.mk.injEq] at h
    obtain ⟨hrs, rfl⟩ := h
    obtain ⟨rfl, hr⟩ := List.append_inj' hrs rfl
    cases hr
    exact ⟨behind, hcalls, hread⟩

theorem readCalls_concat {ended : Bool} {count : Nat} {stream behind rest : Bytes} {rs : List Reading} {r : Reading}
    (h : readCalls ended count stream = some (rs, behind)) (hread : readFrom ended behind = some (r, rest)) :
    readCalls ended (count + 1) stream = some (rs ++ [r], rest) := by
  rw [readCalls_add, h]
  simp [readCalls, hread]

end Frame

end LspClient
