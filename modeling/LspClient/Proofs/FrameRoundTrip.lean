import LspClient.Frame
import LspClient.Proofs.Text
import LspClient.Proofs.Utf8

/-!
# Frames are read back

Reading a header block goes line by line: bytes up to a line feed only lengthen the line begun, and then the
whole line decides how reading goes on. The header that is written for a body has one line, which says the length
of the body, and a blank one. So reading stands at the body after it and at the byte behind the frame after that,
whatever the body is and whatever follows it.

Nothing is said here about other header blocks, or about JSON: that a message is read from its own bytes is
assumed where it is used.
-/

namespace LspClient.Frame

theorem readHeaders_append (ended started : Bool) (length : Option Nat) (line : Bytes) {l : Bytes}
    (hl : lineFeed ∉ l) (rest : Bytes) :
    readHeaders ended started length line (l ++ rest) =
      readHeaders ended started length (l.reverse ++ line) rest := by
  induction l generalizing line with
  | nil => rfl
  | cons b l ih =>
    have hb : b ≠ lineFeed := fun h => hl (by simp [h])
    have hrest : lineFeed ∉ l := fun h => hl (by simp [h])
    rw [List.cons_append, readHeaders, if_neg hb, ih _ hrest]
    simp

section Lines
variable (ended started : Bool) {length : Option Nat} {l : Bytes} (hl : lineFeed ∉ l) (rest : Bytes)
include hl

theorem readHeaders_more {next : Option Nat} (h : takeLine length (l ++ [lineFeed]) = .more next) :
    readHeaders ended started length [] (l ++ lineFeed :: rest) =
      readHeaders ended true next [] rest := by
  rw [readHeaders_append _ _ _ _ hl, readHeaders, if_pos rfl]
  simp [h]

theorem readHeaders_verdict {v : Headers} (h : takeLine length (l ++ [lineFeed]) = .verdict v) :
    readHeaders ended started length [] (l ++ lineFeed :: rest) = some (v, rest) := by
  rw [readHeaders_append _ _ _ _ hl, readHeaders, if_pos rfl]
  simp [h]

end Lines

theorem field?_append {name : List Char} (hname : ':' ∉ name) (value : List Char) :
    field? (name ++ ':' :: value) = some (name, value) := by
  have htake : (name ++ ':' :: value).takeWhile (· ≠ ':') = name := by
    rw [List.takeWhile_append_of_pos]
    · simp
    · intro c hc
      have hne : c ≠ ':' := fun h => hname (h ▸ hc)
      simpa using hne
  simp only [field?, htake, List.drop_left]

theorem length?_digits {n : Nat} (h : n < lengthBound) : length? (Decimal.digits n) = some n := by
  have hplus : '+' ∉ Decimal.digits n := by
    intro hmem
    have hd := Decimal.isDigit_of_mem_digits hmem
    simp [Decimal.isDigit] at hd
  unfold length?
  split
  · rename_i heq
    simp [heq] at hplus
  · simp [h]

/-- The one header line that is written, without its end. -/
def lengthLine (n : Nat) : List Char :=
  contentLength ++ [':', ' '] ++ Decimal.digits n

theorem head_digits (n : Nat) : ∀ c ∈ (Decimal.digits n).head?, Text.isBlankChar c = false := by
  intro c hc
  exact Decimal.isBlankChar_of_isDigit (Decimal.isDigit_of_mem_digits (List.mem_of_head? hc))

theorem last_digits (n : Nat) : ∀ c ∈ (Decimal.digits n).getLast?, Text.isBlankChar c = false := by
  intro c hc
  exact Decimal.isBlankChar_of_isDigit (Decimal.isDigit_of_mem_digits (List.mem_of_getLast? hc))

theorem trim_digits (n : Nat) : Text.trim (' ' :: Decimal.digits n) = Decimal.digits n := by
  have hf : Text.isBlank [' '] := by decide
  have hb : Text.isBlank [] := by decide
  have h := Text.trim_padded hf hb (head_digits n) (last_digits n)
  rwa [List.append_nil] at h

theorem trim_lengthLine (n : Nat) : Text.trim (lengthLine n ++ ['\r', '\n']) = lengthLine n := by
  have hf : Text.isBlank [] := by decide
  have hb : Text.isBlank ['\r', '\n'] := by decide
  have hname : contentLength = 'C' :: "ontent-Length".toList := by decide
  have hhead : ∀ c ∈ (lengthLine n).head?, Text.isBlankChar c = false := by
    intro c hc
    rw [lengthLine, hname, List.cons_append, List.cons_append, List.head?_cons] at hc
    rw [← Option.some.inj hc]
    decide
  have hlast : (lengthLine n).getLast? = (Decimal.digits n).getLast? := by
    rw [lengthLine, List.getLast?_append, List.getLast?_eq_some_getLast (Decimal.digits_ne_nil n),
      Option.some_or]
  have h := Text.trim_padded hf hb hhead (hlast ▸ last_digits n)
  rwa [List.nil_append] at h

theorem classifyLine_lengthLine {n : Nat} (h : n < lengthBound) :
    classifyLine (lengthLine n ++ ['\r', '\n']) = .length n := by
  have hfield : field? (lengthLine n) = some (contentLength, ' ' :: Decimal.digits n) := by
    rw [lengthLine, List.append_assoc]
    exact field?_append (by decide) _
  have hname : Text.sameIgnoringCase (Text.trim contentLength) contentLength := by decide
  have hne : lengthLine n ≠ [] := by simp [lengthLine]
  simp only [classifyLine, trim_lengthLine, if_neg hne, hfield, if_pos hname, trim_digits,
    length?_digits h]

theorem takeLine_lengthLine {n : Nat} (h : n < lengthBound) (length : Option Nat) :
    takeLine length (Utf8.encode (lengthLine n) ++ [0x0D] ++ [lineFeed]) = .more (some n) := by
  have hend : Utf8.encode ['\r', '\n'] = [0x0D] ++ [lineFeed] := by decide
  rw [List.append_assoc, ← hend, ← Utf8.encode_append]
  simp only [takeLine, Utf8.decode?_encode, classifyLine_lengthLine h]

theorem takeLine_blank (n : Nat) : takeLine (some n) ([0x0D] ++ [lineFeed]) = .verdict (.length n) := by
  have hd : Utf8.decode? ([0x0D] ++ [lineFeed]) = some ['\r', '\n'] := by decide
  have hc : classifyLine ['\r', '\n'] = .blank := by decide
  simp only [takeLine, hd, hc]

theorem lineFeed_not_mem_lengthLine (n : Nat) : lineFeed ∉ Utf8.encode (lengthLine n) ++ [0x0D] := by
  have hall : (contentLength ++ [':', ' ']).all (fun c => c.toNat != lineFeed.toNat) = true := by decide
  have hname : ∀ c ∈ contentLength ++ [':', ' '], c.toNat ≠ lineFeed.toNat :=
    fun c hc => bne_iff_ne.1 (List.all_eq_true.1 hall c hc)
  have hline : ∀ c ∈ lengthLine n, c.toNat ≠ lineFeed.toNat := by
    intro c hc
    rcases List.mem_append.mp hc with hc | hc
    · exact hname c hc
    · have hd := Decimal.isDigit_of_mem_digits hc
      simp only [Decimal.isDigit, Bool.and_eq_true, decide_eq_true_eq] at hd
      have hten : lineFeed.toNat = 10 := rfl
      omega
  intro hmem
  rcases List.mem_append.mp hmem with hmem | hmem
  · exact Utf8.not_mem_encode (by decide) hline hmem
  · revert hmem
    decide

theorem header_eq (n : Nat) :
    header n = Utf8.encode (lengthLine n) ++ [0x0D] ++ lineFeed :: ([0x0D] ++ lineFeed :: []) := by
  have hname : "Content-Length: ".toList = contentLength ++ [':', ' '] := by decide
  rw [header, Bytes.ofString, hname, ← Utf8.encode_append, ← lengthLine, List.append_assoc]
  rfl

theorem readHeaders_header (ended : Bool) {n : Nat} (h : n < lengthBound) (rest : Bytes) :
    readHeaders ended false none [] (header n ++ rest) = some (.length n, rest) := by
  rw [header_eq, List.append_assoc _ _ rest, List.cons_append, List.append_assoc [0x0D] _ rest,
    List.cons_append, List.nil_append]
  rw [readHeaders_more ended false (lineFeed_not_mem_lengthLine n) _ (takeLine_lengthLine h none)]
  exact readHeaders_verdict ended true (by decide) rest (takeLine_blank n)

/-- A frame in the wording of the protocol. -/
theorem ofBody_eq (body : Bytes) :
    ofBody body = Bytes.ofString ("Content-Length: " ++ toString body.length ++ "\r\n\r\n") ++ body := by
  have hend : Utf8.encode "\r\n\r\n".toList = [0x0D, 0x0A, 0x0D, 0x0A] := by decide
  rw [ofBody, header, Bytes.ofString, Bytes.ofString, String.toList_append, String.toList_append,
    Utf8.encode_append, Utf8.encode_append, hend, Nat.toString_eq_repr, Nat.toList_repr,
    Decimal.digits_eq_toDigits]

/-- What a body comes to when it is read as a message. -/
def readingOf (body : Bytes) : Reading :=
  match Json.parse? body with
  | some v => .message v
  | none => .failed .malformedBody

theorem readBody_append (ended : Bool) {body : Bytes} (h : body.length ≤ maxFrameBytes) (rest : Bytes) :
    readBody ended body.length (body ++ rest) = some (readingOf body, rest) := by
  rw [readBody, if_neg (Nat.not_lt.mpr h)]
  simp only [List.take_left, List.drop_left, if_neg (Nat.lt_irrefl _)]
  cases hp : Json.parse? body <;> simp [readingOf, hp]

theorem readFrom_ofBody (ended : Bool) {body : Bytes} (h : body.length ≤ maxFrameBytes) (rest : Bytes) :
    readFrom ended (ofBody body ++ rest) = some (readingOf body, rest) := by
  have hbound : body.length < lengthBound := Nat.lt_of_le_of_lt h (by decide)
  rw [readFrom, ofBody, List.append_assoc, readHeaders_header ended hbound]
  exact readBody_append ended h rest

/-- A text is read by its tokens, which can be computed. -/
theorem parse?_of_tokens {bytes : Bytes} {tokens : List Json.Token}
    (h : (Utf8.decode? bytes).bind Json.Token.lex? = some tokens) :
    Json.parse? bytes = (Json.Document.ofTokens? tokens).bind fun d =>
      if d.depth ≤ Json.maxDepth then Json.ofSyntax? d else none := by
  obtain ⟨cs, hcs, hlex⟩ := Option.bind_eq_some_iff.1 h
  rw [Json.parse?, hcs, Option.bind_some, Json.ofChars?, Json.Document.ofChars?, hlex, Option.bind_some]

theorem readFrom_of_tokens (ended : Bool) {body : Bytes} {tokens : List Json.Token} {v : Json}
    (hshort : body.length ≤ maxFrameBytes) (htokens : (Utf8.decode? body).bind Json.Token.lex? = some tokens)
    (hv : ((Json.Document.ofTokens? tokens).bind fun d =>
      if d.depth ≤ Json.maxDepth then Json.ofSyntax? d else none) = some v) :
    readFrom ended (ofBody body) = some (.message v, []) := by
  have hread := readFrom_ofBody ended hshort []
  rwa [List.append_nil, readingOf, parse?_of_tokens htokens, hv] at hread

/-- The outcomes of successive readings, past failures too, and what they leave of the stream; `none` if one of
them would have to wait for more. -/
def readCalls (ended : Bool) : Nat → Bytes → Option (List Reading × Bytes)
  | 0, stream => some ([], stream)
  | count + 1, stream =>
    match readFrom ended stream with
    | none => none
    | some (r, rest) => (readCalls ended count rest).map fun (rs, rest) => (r :: rs, rest)

theorem readCalls_add (ended : Bool) (j k : Nat) (stream : Bytes) :
    readCalls ended (j + k) stream =
      (readCalls ended j stream).bind fun (rs, rest) =>
        (readCalls ended k rest).map fun (ss, rest) => (rs ++ ss, rest) := by
  induction j generalizing stream with
  | zero => simp [readCalls]
  | succ j ih =>
    rw [Nat.succ_add, readCalls, readCalls]
    cases readFrom ended stream with
    | none => rfl
    | some r => simp [ih, Option.map_bind, Option.bind_map, Function.comp_def]

/-- The invariant of the induction is the position: each reading leaves the stream at the next frame. -/
theorem readCalls_ofBody (ended : Bool) {bodies : List Bytes}
    (h : ∀ b ∈ bodies, b.length ≤ maxFrameBytes) (rest : Bytes) :
    readCalls ended bodies.length (bodies.flatMap ofBody ++ rest) =
      some (bodies.map readingOf, rest) := by
  induction bodies with
  | nil => rfl
  | cons b bodies ih =>
    have hb : b.length ≤ maxFrameBytes := h b List.mem_cons_self
    have hrest : ∀ b ∈ bodies, b.length ≤ maxFrameBytes :=
      fun b hb => h b (List.mem_cons_of_mem _ hb)
    rw [List.length_cons, List.flatMap_cons, List.append_assoc, readCalls, readFrom_ofBody ended hb]
    simp only [ih hrest, Option.map_some, List.map_cons]

/-- A message that the reader gets back from its own bytes. -/
def ReadsBack (m : Json) : Prop :=
  m.bytes.length ≤ maxFrameBytes ∧ Json.parse? m.bytes = some m

theorem readCalls_encode (ended : Bool) {messages : List Json} (h : ∀ m ∈ messages, ReadsBack m)
    (rest : Bytes) :
    readCalls ended messages.length (messages.flatMap encode ++ rest) =
      some (messages.map .message, rest) := by
  have hlen : ∀ b ∈ messages.map Json.bytes, b.length ≤ maxFrameBytes := by
    intro b hb
    obtain ⟨m, hm, rfl⟩ := List.mem_map.mp hb
    exact (h m hm).1
  have hread : messages.map (fun m => readingOf m.bytes) = messages.map .message := by
    apply List.map_congr_left
    intro m hm
    simp only [readingOf, (h m hm).2]
  have hcalls := readCalls_ofBody ended hlen rest
  rw [List.length_map, List.flatMap_map, List.map_map] at hcalls
  exact hcalls.trans (by rw [← hread]; rfl)

end LspClient.Frame

namespace LspClient.Target

theorem writeMessage_of_room_none {t : Target} (h : t.room = none) (m : Json) :
    t.writeMessage m = ({ t with taken := t.taken ++ Frame.encode m }, .ok ()) := by
  simp [writeMessage, write, h, Frame.encode, Frame.ofBody]

theorem writeMessages_of_room_none {t : Target} (h : t.room = none) (messages : List Json) :
    t.writeMessages messages =
      ({ t with taken := t.taken ++ messages.flatMap Frame.encode }, messages.map fun _ => .ok ()) := by
  induction messages generalizing t with
  | nil => simp [writeMessages]
  | cons m messages ih =>
    have hrest := ih (t := { t with taken := t.taken ++ Frame.encode m }) h
    simp only [writeMessages, writeMessage_of_room_none h, hrest]
    simp

end LspClient.Target

namespace LspClient.Frame

/-- Frames are read one by one, each body as it is and the rest untouched; what a writer wrote is read back in
order and then the stream has ended. -/
theorem frames_read_back :
    (∀ (ended : Bool) (bodies : List Bytes) (rest : Bytes),
      (∀ b ∈ bodies, b.length ≤ maxFrameBytes) →
        readCalls ended bodies.length
            ((bodies.flatMap fun b =>
              Bytes.ofString ("Content-Length: " ++ toString b.length ++ "\r\n\r\n") ++ b) ++ rest) =
          some (bodies.map readingOf, rest)) ∧
    (∀ messages : List Json,
      (∀ m ∈ messages, ReadsBack m) →
        let (target, results) := ({} : Target).writeMessages messages
        results = messages.map (fun _ => .ok ()) ∧
          readCalls true (messages.length + 1) target.taken =
            some (messages.map .message ++ [.ended], [])) := by
  constructor
  · intro ended bodies rest h
    simp only [← ofBody_eq]
    exact readCalls_ofBody ended h rest
  · intro messages h
    have hroom : ({} : Target).room = none := rfl
    have hread := readCalls_encode true h []
    rw [List.append_nil] at hread
    have hend : readCalls true 1 [] = some ([.ended], []) := rfl
    rw [Target.writeMessages_of_room_none hroom]
    refine ⟨rfl, ?_⟩
    rw [List.nil_append, readCalls_add, hread]
    simp only [Option.bind_some, hend, Option.map_some]

/-- A body with a header in it is still a body, and the next frame is not disturbed. -/
theorem frames_read_back_two :
    readCalls false 2 (Bytes.ofString
        "Content-Length: 19\r\n\r\nContent-Length: 5\r\nContent-Length: 4\r\n\r\nnullC") =
      some ([.failed .malformedBody, .message .null], [0x43]) ∧
    readCalls true 3 (({} : Target).writeMessages [.null, .bool true]).1.taken =
      some ([.message .null, .message (.bool true), .ended], []) := by
  have hfirst : readingOf (Bytes.ofString "Content-Length: 5\r\n") = .failed .malformedBody := rfl
  have hsecond : readingOf (Bytes.ofString "null") = .message .null := rfl
  constructor
  · have h := frames_read_back.1 false
      [Bytes.ofString "Content-Length: 5\r\n", Bytes.ofString "null"] [0x43] (by decide)
    rw [List.map_cons, List.map_cons, hfirst, hsecond] at h
    exact h
  · have hback : ∀ m ∈ [Json.null, .bool true], ReadsBack m := by
      intro m hm
      rcases List.mem_cons.mp hm with rfl | hm
      · exact ⟨by decide, rfl⟩
      · rw [List.mem_singleton.mp hm]
        exact ⟨by decide, rfl⟩
    exact (frames_read_back.2 _ hback).2

end LspClient.Frame
