import LspClient.Proofs.FrameRoundTrip

/-!
# Frames cut short

A stream that breaks off inside a frame is never mistaken for one that ends between two frames. The cut may fall
into the header line, behind it, into the blank line or into the body; a blank line without its line feed still ends
the headers, and the missing body shows there. In each case reading fails and nothing is left.

A target with little room takes as much of the frames as it holds, so it leaves such a stream.
-/

namespace LspClient

/-- The errors of a reader that finds the end of its stream inside a frame. -/
inductive FrameError.ReportsCut : FrameError → Prop where
  | headers : ReportsCut .truncatedHeaders
  | length (value : String) : ReportsCut (.invalidContentLength value)
  | body : ReportsCut (.stream .earlyEof)

namespace Frame

/-- Reading comes to the end of the stream and says that a frame was begun. -/
def ReadsCut (stream : Bytes) : Prop :=
  ∃ e : FrameError, readFrom true stream = some (.failed e, []) ∧ e.ReportsCut

theorem classifyLine_ne_blank {c : Char} (hc : Text.isBlankChar c = false) (cs : List Char) :
    classifyLine (c :: cs) ≠ .blank := by
  simp only [classifyLine, if_neg (Text.trim_ne_nil hc cs)]
  split
  · split
    · split <;> simp
    · simp
  · simp

/-- A line that is not blank and breaks off ends the reading, with one of two errors. -/
theorem readHeaders_cut (started : Bool) (length : Option Nat) {c : Char} (hc : Text.isBlankChar c = false)
    {cs : List Char} (hl : lineFeed ∉ Utf8.encode (c :: cs)) :
    ∃ e : FrameError, readHeaders true started length [] (Utf8.encode (c :: cs)) = some (.failed e, []) ∧
      e.ReportsCut := by
  have hne : (Utf8.encode (c :: cs)).reverse ≠ [] := by
    intro hnil
    have hdecode := Utf8.decode?_encode (c :: cs)
    rw [List.reverse_eq_nil_iff.mp hnil] at hdecode
    cases hdecode
  have hread := readHeaders_append true started length [] hl []
  rw [List.append_nil, List.append_nil] at hread
  rw [hread, readHeaders, if_neg hne, List.reverse_reverse]
  simp only [takeLine, Utf8.decode?_encode]
  cases hline : classifyLine (c :: cs) with
  | blank => exact absurd hline (classifyLine_ne_blank hc cs)
  | length n => exact ⟨_, rfl, .headers⟩
  | badLength value => exact ⟨_, rfl, .length value⟩
  | other => exact ⟨_, rfl, .headers⟩

theorem ReadsCut.of_headers {stream : Bytes}
    (h : ∃ e : FrameError, readHeaders true false none [] stream = some (.failed e, []) ∧ e.ReportsCut) :
    ReadsCut stream := by
  obtain ⟨e, hread, hcut⟩ := h
  exact ⟨e, by rw [readFrom, hread], hcut⟩

/-- The one header line that is written, without its line feed. -/
def headerLine (n : Nat) : List Char :=
  lengthLine n ++ ['\r']

theorem encode_headerLine (n : Nat) : Utf8.encode (headerLine n) = Utf8.encode (lengthLine n) ++ [0x0D] := by
  have hend : Utf8.encode ['\r'] = [0x0D] := by decide
  rw [headerLine, Utf8.encode_append, hend]

theorem header_eq_headerLine (n : Nat) :
    header n = Utf8.encode (headerLine n) ++ [lineFeed, 0x0D, lineFeed] := by
  rw [header_eq, encode_headerLine]
  rfl

theorem lineFeed_not_mem_headerLine (n : Nat) : lineFeed ∉ Utf8.encode (headerLine n) := by
  rw [encode_headerLine]
  exact lineFeed_not_mem_lengthLine n

theorem ascii_headerLine (n : Nat) : ∀ c ∈ headerLine n, c.toNat < 0x80 := by
  have hname : (contentLength ++ [':', ' ']).all (fun c => c.toNat < 0x80) = true := by decide
  intro c hc
  rcases List.mem_append.mp hc with hc | hc
  · rcases List.mem_append.mp hc with hc | hc
    · exact of_decide_eq_true (List.all_eq_true.mp hname c hc)
    · have hd := Decimal.isDigit_of_mem_digits hc
      simp only [Decimal.isDigit, Bool.and_eq_true, decide_eq_true_eq] at hd
      omega
  · rw [List.mem_singleton.mp hc]
    decide

theorem readsCut_in_line (n : Nat) {k : Nat} (hpos : 0 < k) :
    ReadsCut (Utf8.encode ((headerLine n).take k)) := by
  have hline : headerLine n = 'C' :: (headerLine n).tail := rfl
  obtain ⟨j, rfl⟩ : ∃ j, k = j + 1 := ⟨k - 1, by omega⟩
  have hl : lineFeed ∉ Utf8.encode ((headerLine n).take (j + 1)) := by
    rw [← Utf8.take_encode (ascii_headerLine n)]
    exact fun hmem => lineFeed_not_mem_headerLine n (List.mem_of_mem_take hmem)
  rw [hline, List.take_succ_cons] at hl ⊢
  exact .of_headers (readHeaders_cut false none (by decide) hl)

theorem readBody_cut {n : Nat} (hn : n ≤ maxFrameBytes) {part : Bytes} (h : part.length < n) :
    readBody true n part = some (.failed (.stream .earlyEof), []) := by
  have htake : (part.take n).length < n := Nat.lt_of_le_of_lt (List.length_take_le' n part) h
  simp only [readBody, if_neg (Nat.not_lt.mpr hn), if_pos htake]
  rfl

section Cuts
variable {n : Nat} (hn : n ≤ maxFrameBytes)
include hn

/-- The header line says the length, and reading goes on behind it. -/
theorem readHeaders_headerLine (rest : Bytes) :
    readHeaders true false none [] (Utf8.encode (headerLine n) ++ lineFeed :: rest) =
      readHeaders true true (some n) [] rest := by
  have hbound : n < lengthBound := Nat.lt_of_le_of_lt hn (by decide)
  apply readHeaders_more true false (lineFeed_not_mem_headerLine n)
  rw [encode_headerLine]
  exact takeLine_lengthLine hbound none

theorem readsCut_behind_line : ReadsCut (Utf8.encode (headerLine n) ++ [lineFeed]) := by
  refine .of_headers ⟨.truncatedHeaders, ?_, .headers⟩
  rw [readHeaders_headerLine hn]
  rfl

/-- A blank line that breaks off still ends the headers, but then the body is missing. -/
theorem readsCut_in_blank (hpos : 0 < n) : ReadsCut (Utf8.encode (headerLine n) ++ [lineFeed, 0x0D]) := by
  have hblank : readHeaders true true (some n) [] [0x0D] = some (.length n, []) := rfl
  refine ⟨.stream .earlyEof, ?_, .body⟩
  rw [readFrom, readHeaders_headerLine hn, hblank]
  exact readBody_cut hn hpos

theorem readsCut_in_body {part : Bytes} (h : part.length < n) : ReadsCut (header n ++ part) := by
  refine ⟨.stream .earlyEof, ?_, .body⟩
  have hbound : n < lengthBound := Nat.lt_of_le_of_lt hn (by decide)
  rw [readFrom, readHeaders_header true hbound]
  exact readBody_cut hn h

end Cuts

/-- A frame that breaks off anywhere behind its first byte is read as a failure. -/
theorem readsCut_take {body : Bytes} (hbody : body.length ≤ maxFrameBytes) (hne : body ≠ []) {k : Nat}
    (hpos : 0 < k) (hk : k < (ofBody body).length) : ReadsCut ((ofBody body).take k) := by
  have hlen : 0 < body.length := List.length_pos_iff.mpr hne
  have hheader := header_eq_headerLine body.length
  rw [ofBody, hheader] at hk ⊢
  by_cases hin : k ≤ (Utf8.encode (headerLine body.length)).length
  · rw [List.append_assoc, List.take_append_of_le_length hin, Utf8.take_encode (ascii_headerLine _)]
    exact readsCut_in_line _ hpos
  · obtain ⟨j, rfl⟩ : ∃ j, k = (Utf8.encode (headerLine body.length)).length + (j + 1) :=
      ⟨k - (Utf8.encode (headerLine body.length)).length - 1, by omega⟩
    rw [List.append_assoc, List.take_length_add_append]
    rcases j with _ | _ | j
    · exact readsCut_behind_line hbody
    · exact readsCut_in_blank hbody hlen
    · have hpart : (body.take j).length < body.length := by
        simp only [List.length_append, List.length_cons, List.length_nil, List.length_take] at hk ⊢
        omega
      have hcut := readsCut_in_body hbody hpart
      rwa [hheader, List.append_assoc] at hcut

theorem length_encode_pos (m : Json) : 0 < (encode m).length := by
  have hheader := congrArg List.length (header_eq_headerLine m.bytes.length)
  simp only [List.length_append, List.length_cons] at hheader
  rw [encode, ofBody, List.length_append]
  omega

/-- How many messages fit into a number of bytes, one after the other. -/
def fitting (n : Nat) : List Json → Nat
  | [] => 0
  | m :: rest => if (encode m).length ≤ n then fitting (n - (encode m).length) rest + 1 else 0

theorem fitting_le (n : Nat) (messages : List Json) : fitting n messages ≤ messages.length := by
  induction messages generalizing n with
  | nil => exact Nat.le_refl 0
  | cons m messages ih =>
    rw [fitting, List.length_cons]
    split
    · exact Nat.succ_le_succ (ih _)
    · exact Nat.zero_le _

theorem le_fitting_iff {n i : Nat} {messages : List Json} (hi : i ≤ messages.length) :
    i ≤ fitting n messages ↔ ((messages.take i).flatMap encode).length ≤ n := by
  induction messages generalizing n i with
  | nil =>
    cases Nat.le_zero.mp hi
    simp
  | cons m messages ih =>
    cases i with
    | zero => simp
    | succ i =>
      have hrest := ih (n := n - (encode m).length) (Nat.le_of_succ_le_succ hi)
      rw [fitting, List.take_succ_cons, List.flatMap_cons, List.length_append]
      split
      · omega
      · omega

theorem fitting_zero (messages : List Json) : fitting 0 messages = 0 := by
  cases messages with
  | nil => rfl
  | cons m messages =>
    rw [fitting, if_neg (Nat.not_le.mpr (length_encode_pos m))]

end Frame

namespace Target

/-- A message takes what room there is, and is written if its frame fits. -/
theorem writeMessage_of_room {t : Target} {n : Nat} (h : t.room = some n) (m : Json) :
    t.writeMessage m =
      ({ t with taken := t.taken ++ (Frame.encode m).take n, room := some (n - (Frame.encode m).length) },
        if (Frame.encode m).length ≤ n then .ok () else .error (.stream t.failure)) := by
  rw [Frame.encode, Frame.ofBody, List.length_append, List.take_append]
  by_cases hheader : (Frame.header m.bytes.length).length ≤ n
  · rw [List.take_of_length_le hheader, ← List.append_assoc, ← Nat.sub_sub]
    by_cases hbody : m.bytes.length ≤ n - (Frame.header m.bytes.length).length
    · rw [if_pos (by omega)]
      simp only [writeMessage, write, h, if_pos hheader, if_pos hbody, List.take_of_length_le hheader]
    · rw [if_neg (by omega)]
      simp only [writeMessage, write, h, if_pos hheader, if_neg hbody, List.take_of_length_le hheader]
  · have hnone : n - (Frame.header m.bytes.length).length = 0 := by omega
    rw [if_neg (by omega), hnone, List.take_zero, List.append_nil]
    simp only [writeMessage, write, h, if_neg hheader]
    rw [hnone, show n - ((Frame.header m.bytes.length).length + m.bytes.length) = 0 by omega]

theorem writeMessages_of_room {t : Target} {n : Nat} (h : t.room = some n) (messages : List Json) :
    t.writeMessages messages =
      ({ t with
          taken := t.taken ++ (messages.flatMap Frame.encode).take n
          room := some (n - (messages.flatMap Frame.encode).length) },
        List.replicate (Frame.fitting n messages) (.ok ()) ++
          List.replicate (messages.length - Frame.fitting n messages) (.error (.stream t.failure))) := by
  induction messages generalizing t n with
  | nil => simp [writeMessages, Frame.fitting, ← h]
  | cons m messages ih =>
    simp only [writeMessages, writeMessage_of_room h]
    rw [ih rfl, Frame.fitting, List.flatMap_cons, List.take_append, List.append_assoc, List.length_append,
      Nat.sub_sub, List.length_cons]
    split
    · rw [List.replicate_succ, Nat.add_sub_add_right]
      rfl
    · -- Nothing fits any more once a frame did not.
      rename_i hfull
      rw [show n - (Frame.encode m).length = 0 by omega, Frame.fitting_zero, Nat.sub_zero, Nat.sub_zero,
        List.replicate_succ]
      rfl

end Target

namespace Frame

theorem readCalls_ended (more : Nat) : readCalls true more [] = some (List.replicate more .ended, []) := by
  induction more with
  | zero => rfl
  | succ more ih =>
    have hend : readFrom true [] = some (.ended, []) := rfl
    rw [readCalls, hend]
    simp only [ih, Option.map_some]
    rfl

/-- What is read at the place where a stream of frames was cut. -/
def AtCut (messages : List Json) (stream : Bytes) (last : Reading) : Prop :=
  (∃ i, stream = (messages.take i).flatMap encode) ∧ last = .ended ∨
    (¬ ∃ i, stream = (messages.take i).flatMap encode) ∧ ∃ e : FrameError, last = .failed e ∧ e.ReportsCut

theorem readCalls_of_readFrom {stream : Bytes} {r : Reading} (h : readFrom true stream = some (r, []))
    (more : Nat) :
    readCalls true (0 + 1 + more) stream = some (r :: List.replicate more .ended, []) := by
  rw [Nat.zero_add, Nat.add_comm, readCalls, h]
  simp only [readCalls_ended, Option.map_some]

theorem bytes_ne_nil_of_readsBack {m : Json} (h : ReadsBack m) : m.bytes ≠ [] := by
  intro hnil
  have hparse := h.2
  rw [hnil] at hparse
  cases hparse

/-- The first frame does not fit. -/
theorem readCalls_first_cut {m : Json} (hm : ReadsBack m) (messages : List Json) {n : Nat}
    (hn : n < (encode m).length) :
    ∃ last, AtCut (m :: messages) ((encode m).take n) last ∧
      ∀ more, readCalls true (0 + 1 + more) ((encode m).take n) =
        some (last :: List.replicate more .ended, []) := by
  by_cases hzero : n = 0
  · subst hzero
    exact ⟨.ended, .inl ⟨⟨0, rfl⟩, rfl⟩, readCalls_of_readFrom rfl⟩
  · obtain ⟨e, hread, hcut⟩ := readsCut_take hm.1 (bytes_ne_nil_of_readsBack hm) (Nat.pos_of_ne_zero hzero) hn
    refine ⟨.failed e, .inr ⟨?_, e, rfl, hcut⟩, readCalls_of_readFrom hread⟩
    -- A row of whole frames is empty or holds the first one.
    rintro ⟨i, hi⟩
    have hlen := congrArg List.length hi
    cases i with
    | zero =>
      simp only [List.length_take, List.take_zero, List.flatMap_nil, List.length_nil] at hlen
      omega
    | succ i =>
      simp only [List.length_take, List.take_succ_cons, List.flatMap_cons, List.length_append] at hlen
      omega

theorem AtCut.cons {m : Json} {messages : List Json} {stream : Bytes} {last : Reading}
    (h : AtCut messages stream last) : AtCut (m :: messages) (encode m ++ stream) last := by
  have hboundary : (∃ i, encode m ++ stream = ((m :: messages).take i).flatMap encode) ↔
      ∃ i, stream = (messages.take i).flatMap encode := by
    constructor
    · rintro ⟨i, hi⟩
      cases i with
      | zero =>
        have hlen := congrArg List.length hi
        have hpos := length_encode_pos m
        simp only [List.length_append, List.take_zero, List.flatMap_nil, List.length_nil] at hlen
        omega
      | succ i => exact ⟨i, List.append_cancel_left hi⟩
    · rintro ⟨i, rfl⟩
      exact ⟨i + 1, rfl⟩
  rw [AtCut, hboundary]
  exact h

/-- The messages that fit are read, and then the cut shows unless it falls between two frames. -/
theorem readCalls_take {messages : List Json} (h : ∀ m ∈ messages, ReadsBack m) (n : Nat) :
    ∃ last, AtCut messages ((messages.flatMap encode).take n) last ∧
      ∀ more, readCalls true (fitting n messages + 1 + more) ((messages.flatMap encode).take n) =
        some ((messages.take (fitting n messages)).map .message ++ last :: List.replicate more .ended, []) := by
  induction messages generalizing n with
  | nil =>
    rw [List.flatMap_nil, List.take_nil]
    exact ⟨.ended, .inl ⟨⟨0, rfl⟩, rfl⟩, readCalls_of_readFrom rfl⟩
  | cons m messages ih =>
    have hm : ReadsBack m := h m List.mem_cons_self
    rw [fitting, List.flatMap_cons]
    split
    · rename_i hfits
      obtain ⟨last, hat, hcalls⟩ := ih (fun m hm => h m (List.mem_cons_of_mem _ hm)) (n - (encode m).length)
      rw [List.take_append, List.take_of_length_le hfits]
      refine ⟨last, hat.cons, fun more => ?_⟩
      have hread : readFrom true (encode m ++ (messages.flatMap encode).take (n - (encode m).length)) =
          some (.message m, (messages.flatMap encode).take (n - (encode m).length)) := by
        rw [encode, readFrom_ofBody true hm.1, readingOf, hm.2]
      rw [show ∀ k, k + 1 + 1 + more = (k + 1 + more) + 1 by omega, readCalls, hread]
      simp only [hcalls, Option.map_some]
      rfl
    · rename_i hcut
      have hn : n < (encode m).length := Nat.not_le.mp hcut
      rw [List.take_append_of_le_length (Nat.le_of_lt hn)]
      exact readCalls_first_cut hm messages hn

/-- A target with room for `n` bytes takes just the first `n` bytes of the frames. Writing a message succeeds as
long as all frames up to its own fit. Reading gives back the messages that were written, and then the end if the
cut falls between two frames, else an error; behind that there is nothing. -/
theorem truncation_reported (messages : List Json) (n : Nat) :
    let (target, results) := ({ room := some n } : Target).writeMessages messages
    target.taken = (messages.flatMap encode).take n ∧
    ∃ k ≤ messages.length,
      (∀ i ≤ messages.length, i ≤ k ↔ ((messages.take i).flatMap encode).length ≤ n) ∧
      results = List.replicate k (.ok ()) ++
        List.replicate (messages.length - k) (.error (.stream .writeZero)) ∧
      ((∀ m ∈ messages, ReadsBack m) →
        ∃ last, AtCut messages target.taken last ∧
          ∀ more, readCalls true (k + 1 + more) target.taken =
            some ((messages.take k).map .message ++ last :: List.replicate more .ended, [])) := by
  rw [Target.writeMessages_of_room rfl]
  refine ⟨rfl, fitting n messages, fitting_le n messages, fun i hi => le_fitting_iff hi, rfl, fun h => ?_⟩
  exact readCalls_take h n

/-- The cut falls between two digits, so that a smaller length stands there. -/
theorem truncation_reported_between_digits :
    let messages : List Json := [.null, .arr [.null, .null]]
    let target := (({ room := some 42 } : Target).writeMessages messages).1
    (∀ m ∈ messages, ReadsBack m) ∧
      target.taken = Bytes.ofString "Content-Length: 4\r\n\r\nnullContent-Length: 1" ∧
      readCalls true 2 target.taken = some ([.message .null, .failed .truncatedHeaders], []) ∧
      AtCut messages target.taken (.failed .truncatedHeaders) := by
  intro messages target
  have hback : ∀ m ∈ messages, ReadsBack m := by
    intro m hm
    rcases List.mem_cons.mp hm with rfl | hm
    · exact ⟨by decide, rfl⟩
    · rw [List.mem_singleton.mp hm]
      exact ⟨by decide, rfl⟩
  have hfirst : encode .null = Bytes.ofString "Content-Length: 4\r\n\r\nnull" := ofBody_eq _
  have hsecond : encode (.arr [.null, .null]) = Bytes.ofString "Content-Length: 11\r\n\r\n[null,null]" :=
    ofBody_eq _
  obtain ⟨htaken, k, -, hfits, -, hcalls⟩ := truncation_reported messages 42
  have hframes : target.taken = Bytes.ofString "Content-Length: 4\r\n\r\nnullContent-Length: 1" := by
    refine htaken.trans ?_
    rw [List.flatMap_cons, List.flatMap_cons, hfirst, hsecond]
    decide
  have hread : readCalls true 2 target.taken = some ([.message .null, .failed .truncatedHeaders], []) := by
    rw [hframes]
    rfl
  have hone : 1 ≤ k := by
    rw [hfits 1 (by decide), List.take_succ_cons, List.flatMap_cons, hfirst]
    decide
  have htwo : ¬ 2 ≤ k := by
    rw [hfits 2 (by decide), List.take_succ_cons, List.take_succ_cons, List.flatMap_cons, List.flatMap_cons,
      hfirst, hsecond]
    decide
  obtain rfl : k = 1 := by omega
  obtain ⟨last, hat, hlast⟩ := hcalls hback
  have heq := (hlast 0).symm.trans hread
  simp only [messages, Option.some.injEq, Prod.mk.injEq] at heq
  cases heq.1
  exact ⟨hback, hframes, hread, hat⟩

end Frame

end LspClient
