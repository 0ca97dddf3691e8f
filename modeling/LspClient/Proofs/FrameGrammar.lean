import LspClient.Proofs.FrameRoundTrip
import LspClient.Proofs.Utf8Pieces

/-!
# The grammar of frames

A frame is a block of header lines and a body. What a line tells is said here of the line as it stands, without the
order in which the reader trims it and takes it apart. The block ends with its first blank line, every length given in
it must be a numeral, and the last one counts. The reader returns a message just for the streams that begin with such
a frame, and a stream can be taken apart in one way only.

Of JSON it is used that no value has an empty text. That leaves out the one block which the reader accepts although
its blank line breaks off at the end of the stream, for then there is nothing left for the body.
-/

namespace LspClient.Frame

theorem split_unique {α : Type} {x : α} {a b c d : List α} (ha : x ∉ a) (hb : x ∉ b)
    (h : a ++ x :: c = b ++ x :: d) : a = b ∧ c = d := by
  induction a generalizing b with
  | nil =>
    cases b with
    | nil => exact ⟨rfl, (List.cons.inj h).2⟩
    | cons y b => exact absurd (List.mem_cons.mpr (.inl (List.cons.inj h).1)) hb
  | cons z a ih =>
    cases b with
    | nil => exact absurd (List.mem_cons.mpr (.inl (List.cons.inj h).1.symm)) ha
    | cons y b =>
      obtain ⟨rfl, hrest⟩ := List.cons.inj h
      obtain ⟨rfl, rfl⟩ := ih (fun hx => ha (List.mem_cons_of_mem _ hx))
        (fun hx => hb (List.mem_cons_of_mem _ hx)) hrest
      exact ⟨rfl, rfl⟩

/-- A line with this value behind its first colon and, but for case and white space, `Content-Length` in front. -/
def LengthField (line value : List Char) : Prop :=
  ∃ name, line = name ++ ':' :: value ∧ ':' ∉ name ∧ Text.sameIgnoringCase (Text.trim name) contentLength

/-- A row of digits, with at most one plus sign in front, for a number of 64 bits. -/
def Denotes (text : List Char) (n : Nat) : Prop :=
  ∃ digits, (text = digits ∨ text = '+' :: digits) ∧ digits ≠ [] ∧ (∀ d ∈ digits, Decimal.isDigit d) ∧
    Decimal.value digits = n ∧ n < 0x10000000000000000

/-- What a line of text tells the reader. -/
inductive Tells (line : List Char) : Line → Prop where
  | blank (h : Text.isBlank line) : Tells line .blank
  | length {value : List Char} {n : Nat} (h : LengthField line value) (hn : Denotes (Text.trim value) n) :
      Tells line (.length n)
  | badLength {value : List Char} (h : LengthField line value) (hn : ∀ n, ¬ Denotes (Text.trim value) n) :
      Tells line (.badLength (String.ofList (Text.trim value)))
  | other (hfilled : Text.isBlank line = false) (h : ∀ value, ¬ LengthField line value) : Tells line .other

theorem isBlankChar_colon : Text.isBlankChar ':' = false := by decide

theorem LengthField.filled {line value : List Char} (h : LengthField line value) : Text.isBlank line = false := by
  obtain ⟨name, rfl, -, -⟩ := h
  cases hb : Text.isBlank (name ++ ':' :: value) with
  | false => rfl
  | true =>
    have hmem : ':' ∈ name ++ ':' :: value := List.mem_append_right _ List.mem_cons_self
    exact absurd hmem (Text.not_mem_of_isBlank isBlankChar_colon hb)

theorem field?_of_not_mem {line : List Char} (h : ':' ∉ line) : field? line = none := by
  have hall : ∀ c ∈ line, (decide (c ≠ ':')) = true := by
    intro c hc
    have hne : c ≠ ':' := fun heq => h (heq ▸ hc)
    simpa using hne
  have htake : (line ++ []).takeWhile (fun c => decide (c ≠ ':')) = line ++ [] :=
    List.takeWhile_append_of_pos hall
  rw [List.append_nil] at htake
  simp only [field?, htake, List.drop_length]

/-- The line is trimmed before it is taken apart, which leaves name and value the same but for white space. -/
theorem field?_trim {name : List Char} (hname : ':' ∉ name) (value : List Char) :
    ∃ name' value', field? (Text.trim (name ++ ':' :: value)) = some (name', value') ∧
      Text.trim name' = Text.trim name ∧ Text.trim value' = Text.trim value := by
  obtain ⟨front, back, hfront, hback, hline⟩ := Text.exists_padding (name ++ ':' :: value)
  have hcolon : ':' ∈ Text.trim (name ++ ':' :: value) := by
    rw [Text.mem_trim_iff isBlankChar_colon]
    exact List.mem_append_right _ List.mem_cons_self
  obtain ⟨name', value', htrim, hname'⟩ := List.eq_append_cons_of_mem hcolon
  rw [htrim, List.append_assoc, List.append_assoc, List.cons_append, ← List.append_assoc] at hline
  have hpadded : ':' ∉ front ++ name' := by
    intro hmem
    rcases List.mem_append.mp hmem with hmem | hmem
    · exact Text.not_mem_of_isBlank isBlankChar_colon hfront hmem
    · exact hname' hmem
  obtain ⟨rfl, rfl⟩ := split_unique hname hpadded hline
  refine ⟨name', value', ?_, ?_, ?_⟩
  · rw [htrim, field?_append hname']
  · rw [Text.trim_append_left hfront]
  · rw [Text.trim_append_right hback]

theorem length?_eq_some_iff {text : List Char} {n : Nat} : length? text = some n ↔ Denotes text n := by
  have hvalue : ∀ digits : List Char, (Decimal.value? digits).filter (· < lengthBound) = some n ↔
      digits ≠ [] ∧ (∀ d ∈ digits, Decimal.isDigit d) ∧ Decimal.value digits = n ∧ n < 0x10000000000000000 := by
    intro digits
    have hbound : lengthBound = 0x10000000000000000 := rfl
    rw [Option.filter_eq_some_iff, Decimal.value?, decide_eq_true_eq, hbound]
    simp only [Option.ite_none_right_eq_some, Option.some_inj, List.all_eq_true, and_assoc]
  constructor
  · intro h
    unfold length? at h
    split at h
    · rename_i rest
      exact ⟨rest, .inr rfl, (hvalue rest).mp h⟩
    · exact ⟨text, .inl rfl, (hvalue text).mp h⟩
  · rintro ⟨digits, hform, hdigits⟩
    have hplus : '+' ∉ digits := by
      intro hmem
      have hd := hdigits.2.1 _ hmem
      revert hd
      decide
    unfold length?
    rcases hform with rfl | rfl
    · split
      · exact absurd List.mem_cons_self hplus
      · exact (hvalue text).mpr hdigits
    · exact (hvalue digits).mpr hdigits

theorem Denotes.unique {text : List Char} {m n : Nat} (hm : Denotes text m) (hn : Denotes text n) : m = n := by
  rw [← length?_eq_some_iff] at hm hn
  exact Option.some_inj.mp (hm.symm.trans hn)

theorem LengthField.parts {line value : List Char} (h : LengthField line value) :
    Text.trim line ≠ [] ∧ ∃ name' value', field? (Text.trim line) = some (name', value') ∧
      Text.sameIgnoringCase (Text.trim name') contentLength ∧ Text.trim value' = Text.trim value := by
  have hne : Text.trim line ≠ [] := by
    rw [Ne, Text.trim_eq_nil_iff, h.filled]
    exact Bool.false_ne_true
  obtain ⟨name, rfl, hname, hlength⟩ := h
  obtain ⟨name', value', hfield, hn, hv⟩ := field?_trim hname value
  exact ⟨hne, name', value', hfield, hn ▸ hlength, hv⟩

theorem Tells.classify {line : List Char} {what : Line} (h : Tells line what) : classifyLine line = what := by
  cases h with
  | blank h =>
    rw [← Text.trim_eq_nil_iff] at h
    simp only [classifyLine, if_pos h]
  | length h hn =>
    obtain ⟨hne, name, value, hfield, hname, hvalue⟩ := h.parts
    simp only [classifyLine, if_neg hne, hfield, if_pos hname, hvalue, length?_eq_some_iff.mpr hn]
  | @badLength value h hn =>
    have hnone : length? (Text.trim value) = none := by
      rw [Option.eq_none_iff_forall_ne_some]
      exact fun n hsome => hn n (length?_eq_some_iff.mp hsome)
    obtain ⟨hne, name, value', hfield, hname, hvalue⟩ := h.parts
    simp only [classifyLine, if_neg hne, hfield, if_pos hname, hvalue, hnone]
  | other hfilled h =>
    have hne : Text.trim line ≠ [] := by
      rw [Ne, Text.trim_eq_nil_iff, hfilled]
      simp
    simp only [classifyLine, if_neg hne]
    by_cases hcolon : ':' ∈ line
    · obtain ⟨name, value, rfl, hname⟩ := List.eq_append_cons_of_mem hcolon
      have hother : ¬ Text.sameIgnoringCase (Text.trim name) contentLength :=
        fun hlength => h value ⟨name, rfl, hname, hlength⟩
      obtain ⟨name', value', hfield, hn, -⟩ := field?_trim hname value
      simp only [hfield, hn, if_neg hother]
    · have hcolon' : ':' ∉ Text.trim line := fun hmem => hcolon ((Text.mem_trim_iff isBlankChar_colon line).mp hmem)
      simp only [field?_of_not_mem hcolon']

theorem exists_tells (line : List Char) : ∃ what, Tells line what := by
  cases hblank : Text.isBlank line with
  | true => exact ⟨_, .blank hblank⟩
  | false =>
    by_cases hfield : ∃ value, LengthField line value
    · obtain ⟨value, hfield⟩ := hfield
      by_cases hn : ∃ n, Denotes (Text.trim value) n
      · obtain ⟨n, hn⟩ := hn
        exact ⟨_, .length hfield hn⟩
      · exact ⟨_, .badLength hfield fun n h => hn ⟨n, h⟩⟩
    · exact ⟨_, .other hblank fun value h => hfield ⟨value, h⟩⟩

theorem classifyLine_eq_iff {line : List Char} {what : Line} : classifyLine line = what ↔ Tells line what := by
  constructor
  · rintro rfl
    obtain ⟨what, h⟩ := exists_tells line
    rwa [h.classify]
  · exact Tells.classify

theorem isBlank_concat_lineFeed (line : List Char) : Text.isBlank (line ++ ['\n']) = Text.isBlank line := by
  have hfeed : Text.isBlank ['\n'] = true := by decide
  rw [Bool.eq_iff_iff, Text.isBlank_append, hfeed]
  simp

theorem tells_concat_lineFeed {line : List Char} {what : Line} : Tells (line ++ ['\n']) what ↔ Tells line what := by
  have htrim : Text.trim (line ++ ['\n']) = Text.trim line := Text.trim_append_right (by decide) line
  rw [← classifyLine_eq_iff, ← classifyLine_eq_iff, classifyLine, classifyLine, htrim]

theorem takeLine_eq_more_iff {given next : Option Nat} {line : Bytes} :
    takeLine given line = .more next ↔
      ∃ cs, line = Utf8.encode cs ∧
        ((∃ n, Tells cs (.length n) ∧ next = some n) ∨ (Tells cs .other ∧ next = given)) := by
  constructor
  · intro h
    unfold takeLine at h
    split at h
    · cases h
    · rename_i cs hcs
      refine ⟨cs, Utf8.decode?_eq_some_iff.mp hcs, ?_⟩
      split at h
      · split at h <;> cases h
      · rename_i n hn
        cases h
        exact .inl ⟨n, classifyLine_eq_iff.mp hn, rfl⟩
      · cases h
      · rename_i hother
        cases h
        exact .inr ⟨classifyLine_eq_iff.mp hother, rfl⟩
  · rintro ⟨cs, rfl, h⟩
    rcases h with ⟨n, htells, rfl⟩ | ⟨htells, rfl⟩
    · simp only [takeLine, Utf8.decode?_encode, htells.classify]
    · simp only [takeLine, Utf8.decode?_encode, htells.classify]

theorem takeLine_eq_length_iff {given : Option Nat} {line : Bytes} {n : Nat} :
    takeLine given line = .verdict (.length n) ↔
      ∃ cs, line = Utf8.encode cs ∧ Text.isBlank cs ∧ given = some n := by
  constructor
  · intro h
    unfold takeLine at h
    split at h
    · cases h
    · rename_i cs hcs
      refine ⟨cs, Utf8.decode?_eq_some_iff.mp hcs, ?_⟩
      split at h
      · rename_i hblank
        cases classifyLine_eq_iff.mp hblank with
        | blank hcs =>
          split at h
          · cases h
            exact ⟨hcs, rfl⟩
          · cases h
      · cases h
      · cases h
      · cases h
  · rintro ⟨cs, rfl, hblank, rfl⟩
    have hclassify := (Tells.blank hblank).classify
    simp only [takeLine, Utf8.decode?_encode, hclassify]

theorem encode_lineFeed : Utf8.encode ['\n'] = [lineFeed] := by decide

theorem lineFeed_mem_encode_iff {cs : List Char} : lineFeed ∈ Utf8.encode cs ↔ '\n' ∈ cs :=
  Utf8.mem_encode_iff (by decide) (by decide)

/-- The line feed is a character of its own, so the rest of the line is text if the line is. -/
theorem exists_line_text {line : Bytes} {cs : List Char} (h : line ++ [lineFeed] = Utf8.encode cs) :
    ∃ text, cs = text ++ ['\n'] ∧ line = Utf8.encode text := by
  have hline : Utf8.encode cs = line ++ Utf8.encode ['\n'] ++ Utf8.encode [] := by
    rw [← h, encode_lineFeed]
    exact (List.append_nil _).symm
  obtain ⟨text, back, hcs, htext, hback⟩ := Utf8.exists_of_encode_infix (List.cons_ne_nil _ _) hline
  obtain rfl := Utf8.encode_injective hback
  exact ⟨text, by rw [hcs, List.append_nil], htext⟩

/-- Header lines, where the length given last is `given` before them and `last` after them. -/
inductive Leads : Option Nat → List (List Char) → Option Nat → Prop where
  | nil (given : Option Nat) : Leads given [] given
  | length {given last : Option Nat} {line : List Char} {lines : List (List Char)} {n : Nat}
      (h : Tells line (.length n)) (rest : Leads (some n) lines last) : Leads given (line :: lines) last
  | other {given last : Option Nat} {line : List Char} {lines : List (List Char)}
      (h : Tells line .other) (rest : Leads given lines last) : Leads given (line :: lines) last

/-- The bytes of lines, each with its line feed. -/
def lineBytes (lines : List (List Char)) : Bytes :=
  lines.flatMap fun line => Utf8.encode line ++ [lineFeed]

theorem lineBytes_cons (line : List Char) (lines : List (List Char)) (rest : Bytes) :
    lineBytes (line :: lines) ++ rest = Utf8.encode line ++ lineFeed :: (lineBytes lines ++ rest) := by
  simp [lineBytes]

theorem lineBytes_append (xs ys : List (List Char)) : lineBytes (xs ++ ys) = lineBytes xs ++ lineBytes ys :=
  List.flatMap_append

theorem lineBytes_inj {xs ys : List (List Char)} (hx : ∀ line ∈ xs, '\n' ∉ line) (hy : ∀ line ∈ ys, '\n' ∉ line)
    (h : lineBytes xs = lineBytes ys) : xs = ys := by
  induction xs generalizing ys with
  | nil =>
    cases ys with
    | nil => rfl
    | cons y ys => simp [lineBytes] at h
  | cons x xs ih =>
    cases ys with
    | nil => simp [lineBytes] at h
    | cons y ys =>
      have hsplit := h
      rw [← List.append_nil (lineBytes (x :: xs)), ← List.append_nil (lineBytes (y :: ys)), lineBytes_cons,
        lineBytes_cons] at hsplit
      have hfx : lineFeed ∉ Utf8.encode x := fun hmem => hx x List.mem_cons_self (lineFeed_mem_encode_iff.mp hmem)
      have hfy : lineFeed ∉ Utf8.encode y := fun hmem => hy y List.mem_cons_self (lineFeed_mem_encode_iff.mp hmem)
      obtain ⟨hline, hrest⟩ := split_unique hfx hfy hsplit
      rw [List.append_nil, List.append_nil] at hrest
      rw [Utf8.encode_injective hline, ih (fun line hmem => hx line (List.mem_cons_of_mem _ hmem))
        (fun line hmem => hy line (List.mem_cons_of_mem _ hmem)) hrest]

theorem takeLine_of_tells (given : Option Nat) {next : Option Nat} {line : List Char}
    (h : (∃ n, Tells line (.length n) ∧ next = some n) ∨ (Tells line .other ∧ next = given)) :
    takeLine given (Utf8.encode line ++ [lineFeed]) = .more next := by
  rw [takeLine_eq_more_iff]
  refine ⟨line ++ ['\n'], by rw [Utf8.encode_append, encode_lineFeed], ?_⟩
  simpa only [tells_concat_lineFeed] using h

theorem readHeaders_lines (ended : Bool) {given last : Option Nat} {lines : List (List Char)}
    (h : Leads given lines last) (hlines : ∀ line ∈ lines, '\n' ∉ line) (started : Bool) (rest : Bytes) :
    ∃ started', readHeaders ended started given [] (lineBytes lines ++ rest) =
      readHeaders ended started' last [] rest := by
  induction h generalizing started with
  | nil given => exact ⟨started, rfl⟩
  | @length given last line lines n htells hrest ih =>
    have hfeed : lineFeed ∉ Utf8.encode line :=
      fun hmem => hlines line List.mem_cons_self (lineFeed_mem_encode_iff.mp hmem)
    have hmore := takeLine_of_tells given (.inl ⟨n, htells, rfl⟩)
    rw [lineBytes_cons, readHeaders_more ended started hfeed _ hmore]
    exact ih (fun line hmem => hlines line (List.mem_cons_of_mem _ hmem)) true
  | @other given last line lines htells hrest ih =>
    have hfeed : lineFeed ∉ Utf8.encode line :=
      fun hmem => hlines line List.mem_cons_self (lineFeed_mem_encode_iff.mp hmem)
    have hmore := takeLine_of_tells given (.inr ⟨htells, rfl⟩)
    rw [lineBytes_cons, readHeaders_more ended started hfeed _ hmore]
    exact ih (fun line hmem => hlines line (List.mem_cons_of_mem _ hmem)) true

/-- How a blank line ends a block: by its line feed, or with the stream. -/
inductive BlankEnd (ended : Bool) (blank : List Char) (rest : Bytes) : Bytes → Prop where
  | line : BlankEnd ended blank rest (Utf8.encode blank ++ lineFeed :: rest)
  | cut (hended : ended = true) (hrest : rest = []) : BlankEnd ended blank rest (Utf8.encode blank)

/-- A stream that begins with a header block which gives `n`, and goes on with `rest`. -/
structure Opens (ended : Bool) (given : Option Nat) (stream : Bytes) (n : Nat) (rest : Bytes)
    (lines : List (List Char)) (blank : List Char) : Prop where
  unbroken : ∀ line ∈ lines, '\n' ∉ line
  unbrokenBlank : '\n' ∉ blank
  leads : Leads given lines (some n)
  isBlank : Text.isBlank blank
  ends : ∃ tail, stream = lineBytes lines ++ tail ∧ BlankEnd ended blank rest tail

theorem Opens.cons {ended : Bool} {given next : Option Nat} {stream rest : Bytes} {n : Nat}
    {lines : List (List Char)} {blank line : List Char} (h : Opens ended next stream n rest lines blank)
    (hline : '\n' ∉ line) (hleads : Leads next lines (some n) → Leads given (line :: lines) (some n)) :
    Opens ended given (Utf8.encode line ++ lineFeed :: stream) n rest (line :: lines) blank := by
  obtain ⟨tail, rfl, hend⟩ := h.ends
  refine ⟨?_, h.unbrokenBlank, hleads h.leads, h.isBlank, tail, (lineBytes_cons line lines tail).symm, hend⟩
  intro l hl
  rcases List.mem_cons.mp hl with rfl | hl
  · exact hline
  · exact h.unbroken l hl

/-- The induction is on the length of the stream, line by line. -/
theorem opens_of_readHeaders (ended : Bool) {n : Nat} {rest stream : Bytes} {started : Bool} {given : Option Nat}
    (h : readHeaders ended started given [] stream = some (.length n, rest)) :
    ∃ lines blank, Opens ended given stream n rest lines blank := by
  induction hlen : stream.length using Nat.strongRecOn generalizing stream started given with
  | ind len ih =>
    by_cases hmem : lineFeed ∈ stream
    · obtain ⟨line, behind, rfl, hline⟩ := List.eq_append_cons_of_mem hmem
      cases htake : takeLine given (line ++ [lineFeed]) with
      | verdict v =>
        rw [readHeaders_verdict ended started hline behind htake] at h
        cases h
        obtain ⟨cs, hcs, hblank, rfl⟩ := takeLine_eq_length_iff.mp htake
        obtain ⟨text, rfl, rfl⟩ := exists_line_text hcs
        rw [isBlank_concat_lineFeed] at hblank
        exact ⟨[], text, nofun, fun hfeed => hline (lineFeed_mem_encode_iff.mpr hfeed), .nil _, hblank, _, rfl, .line⟩
      | more next =>
        rw [readHeaders_more ended started hline behind htake] at h
        obtain ⟨cs, hcs, htells⟩ := takeLine_eq_more_iff.mp htake
        obtain ⟨text, rfl, rfl⟩ := exists_line_text hcs
        have htext : '\n' ∉ text := fun hfeed => hline (lineFeed_mem_encode_iff.mpr hfeed)
        obtain ⟨lines, blank, hopens⟩ := ih behind.length (by simp at hlen; omega) h rfl
        refine ⟨text :: lines, blank, hopens.cons htext fun hleads => ?_⟩
        rcases htells with ⟨k, htells, rfl⟩ | ⟨htells, rfl⟩
        · exact .length (tells_concat_lineFeed.mp htells) hleads
        · exact .other (tells_concat_lineFeed.mp htells) hleads
    · have hread := readHeaders_append ended started given [] hmem []
      rw [List.append_nil, List.append_nil] at hread
      rw [hread, readHeaders, List.reverse_reverse] at h
      cases ended with
      | false => cases h
      | true =>
        simp only [Bool.not_true, Bool.false_eq_true, if_false] at h
        split at h
        · split at h <;> cases h
        · split at h
          · rename_i v htake
            cases h
            obtain ⟨cs, rfl, hblank, rfl⟩ := takeLine_eq_length_iff.mp htake
            exact ⟨[], cs, nofun, fun hfeed => hmem (lineFeed_mem_encode_iff.mpr hfeed), .nil _, hblank, _, rfl,
              .cut rfl rfl⟩
          · cases h

/-- The length given last among lines: that of the last length field, or else the one given before. -/
inductive GivenLast (given : Option Nat) (lines : List (List Char)) : Option Nat → Prop where
  | none (h : ∀ line ∈ lines, ∀ value, ¬ LengthField line value) : GivenLast given lines given
  | field {before after : List (List Char)} {line value : List Char} {n : Nat}
      (hlines : lines = before ++ line :: after)
      (hfield : LengthField line value) (hn : Denotes (Text.trim value) n)
      (hlast : ∀ later ∈ after, ∀ value, ¬ LengthField later value) : GivenLast given lines (some n)

theorem Tells.filled_of_length {line : List Char} {n : Nat} (h : Tells line (.length n)) :
    Text.isBlank line = false := by
  cases h with
  | length h hn => exact h.filled

theorem LengthField.unique {line value value' : List Char} (h : LengthField line value)
    (h' : LengthField line value') : value = value' := by
  obtain ⟨name, rfl, hname, -⟩ := h
  obtain ⟨name', hline, hname', -⟩ := h'
  exact (split_unique hname hname' hline).2

theorem Leads.filled {given last : Option Nat} {lines : List (List Char)} (h : Leads given lines last) :
    ∀ line ∈ lines, Text.isBlank line = false := by
  induction h with
  | nil given => exact nofun
  | length htells hrest ih =>
    intro line hline
    rcases List.mem_cons.mp hline with rfl | hline
    · exact htells.filled_of_length
    · exact ih line hline
  | other htells hrest ih =>
    intro line hline
    rcases List.mem_cons.mp hline with rfl | hline
    · cases htells with
      | other hfilled h => exact hfilled
    · exact ih line hline

theorem Leads.numerals {given last : Option Nat} {lines : List (List Char)} (h : Leads given lines last) :
    ∀ line ∈ lines, ∀ value, LengthField line value → ∃ n, Denotes (Text.trim value) n := by
  induction h with
  | nil given => exact nofun
  | length htells hrest ih =>
    intro line hline value hfield
    rcases List.mem_cons.mp hline with rfl | hline
    · cases htells with
      | length h hn =>
        obtain rfl := hfield.unique h
        exact ⟨_, hn⟩
    · exact ih line hline value hfield
  | other htells hrest ih =>
    intro line hline value hfield
    rcases List.mem_cons.mp hline with rfl | hline
    · cases htells with
      | other hfilled h => exact absurd hfield (h value)
    · exact ih line hline value hfield

theorem GivenLast.cons {given : Option Nat} {line : List Char} {lines : List (List Char)} {next last : Option Nat}
    (h : GivenLast next lines last) (hnone : last = next → (∀ later ∈ lines, ∀ value, ¬ LengthField later value) →
      GivenLast given (line :: lines) last) : GivenLast given (line :: lines) last := by
  cases h with
  | none h => exact hnone rfl h
  | field hlines hfield hn hlast =>
    subst hlines
    exact .field (List.cons_append.symm) hfield hn hlast

theorem Leads.givenLast {given last : Option Nat} {lines : List (List Char)} (h : Leads given lines last) :
    GivenLast given lines last := by
  induction h with
  | nil given => exact .none nofun
  | length htells hrest ih =>
    refine ih.cons fun hlast hnone => ?_
    subst hlast
    cases htells with
    | length h hn => exact .field (List.nil_append _).symm h hn hnone
  | other htells hrest ih =>
    refine ih.cons fun hlast hnone => ?_
    subst hlast
    cases htells with
    | other hfilled h =>
      refine .none fun line hline => ?_
      rcases List.mem_cons.mp hline with rfl | hline
      · exact h
      · exact hnone line hline

theorem leads_of_givenLast {given last : Option Nat} {lines : List (List Char)}
    (hfilled : ∀ line ∈ lines, Text.isBlank line = false)
    (hnumerals : ∀ line ∈ lines, ∀ value, LengthField line value → ∃ n, Denotes (Text.trim value) n)
    (hlast : GivenLast given lines last) : Leads given lines last := by
  induction lines generalizing given with
  | nil =>
    cases hlast with
    | none h => exact .nil _
    | field hlines hfield hn hlast => simp at hlines
  | cons line lines ih =>
    have ih' : ∀ given, GivenLast given lines last → Leads given lines last := fun given =>
      ih (fun l hl => hfilled l (List.mem_cons_of_mem _ hl)) (fun l hl => hnumerals l (List.mem_cons_of_mem _ hl))
    by_cases hfield : ∃ value, LengthField line value
    · obtain ⟨value, hfield⟩ := hfield
      obtain ⟨n, hn⟩ := hnumerals line List.mem_cons_self value hfield
      apply Leads.length (.length hfield hn)
      apply ih'
      cases hlast with
      | none h => exact absurd hfield (h line List.mem_cons_self value)
      | @field before after line' value' n' hlines hfield' hn' hafter =>
        cases before with
        | nil =>
          obtain ⟨rfl, rfl⟩ := List.cons.inj hlines
          obtain rfl := hfield.unique hfield'
          obtain rfl := hn.unique hn'
          exact .none hafter
        | cons first before =>
          obtain ⟨rfl, rfl⟩ := List.cons.inj hlines
          exact .field rfl hfield' hn' hafter
    · have hother : ∀ value, ¬ LengthField line value := fun value h => hfield ⟨value, h⟩
      apply Leads.other (.other (hfilled line List.mem_cons_self) hother)
      apply ih'
      cases hlast with
      | none h => exact .none fun l hl => h l (List.mem_cons_of_mem _ hl)
      | @field before after line' value' n' hlines hfield' hn' hafter =>
        cases before with
        | nil =>
          obtain ⟨rfl, rfl⟩ := List.cons.inj hlines
          exact absurd hfield' (hother value')
        | cons first before =>
          obtain ⟨rfl, rfl⟩ := List.cons.inj hlines
          exact .field rfl hfield' hn' hafter

/-- A header block that gives the length `n`: filled lines and a blank one. -/
structure HeaderBlock (lines : List (List Char)) (blank : List Char) (n : Nat) : Prop where
  unbroken : ∀ line ∈ lines ++ [blank], '\n' ∉ line
  filled : ∀ line ∈ lines, Text.isBlank line = false
  isBlank : Text.isBlank blank
  numerals : ∀ line ∈ lines, ∀ value, LengthField line value → ∃ k, Denotes (Text.trim value) k
  last : ∃ before line after value, lines = before ++ line :: after ∧ LengthField line value ∧
    Denotes (Text.trim value) n ∧ ∀ later ∈ after, ∀ value, ¬ LengthField later value

theorem HeaderBlock.leads {lines : List (List Char)} {blank : List Char} {n : Nat} (h : HeaderBlock lines blank n) :
    Leads none lines (some n) := by
  obtain ⟨before, line, after, value, hlines, hfield, hn, hafter⟩ := h.last
  exact leads_of_givenLast h.filled h.numerals (.field hlines hfield hn hafter)

theorem Leads.block {lines : List (List Char)} {blank : List Char} {n : Nat} (h : Leads none lines (some n))
    (hunbroken : ∀ line ∈ lines ++ [blank], '\n' ∉ line) (hblank : Text.isBlank blank) :
    HeaderBlock lines blank n := by
  refine ⟨hunbroken, h.filled, hblank, h.numerals, ?_⟩
  cases h.givenLast with
  | field hlines hfield hn hlast => exact ⟨_, _, _, _, hlines, hfield, hn, hlast⟩

theorem Opens.block {ended : Bool} {stream rest : Bytes} {n : Nat} {lines : List (List Char)} {blank : List Char}
    (h : Opens ended none stream n rest lines blank) : HeaderBlock lines blank n := by
  refine h.leads.block ?_ h.isBlank
  intro line hline
  rcases List.mem_append.mp hline with hline | hline
  · exact h.unbroken line hline
  · rw [List.mem_singleton.mp hline]
    exact h.unbrokenBlank

theorem HeaderBlock.readHeaders {lines : List (List Char)} {blank : List Char} {n : Nat}
    (h : HeaderBlock lines blank n) (ended : Bool) (rest : Bytes) :
    readHeaders ended false none [] (lineBytes (lines ++ [blank]) ++ rest) = some (.length n, rest) := by
  have hlines : ∀ line ∈ lines, '\n' ∉ line := fun line hline => h.unbroken line (List.mem_append_left _ hline)
  have hfeed : lineFeed ∉ Utf8.encode blank := by
    intro hmem
    exact h.unbroken blank (List.mem_append_right _ List.mem_cons_self) (lineFeed_mem_encode_iff.mp hmem)
  have hblank : takeLine (some n) (Utf8.encode blank ++ [lineFeed]) = .verdict (.length n) := by
    rw [takeLine_eq_length_iff]
    refine ⟨blank ++ ['\n'], by rw [Utf8.encode_append, encode_lineFeed], ?_, rfl⟩
    rw [isBlank_concat_lineFeed]
    exact h.isBlank
  obtain ⟨started, hread⟩ := readHeaders_lines ended h.leads hlines false (lineBytes [blank] ++ rest)
  rw [lineBytes_append, List.append_assoc, hread, lineBytes_cons]
  exact readHeaders_verdict ended started hfeed rest hblank

/-- A stream that consists of a header block, a body of the length that the block gives, and a rest. -/
structure Decomposes (stream : Bytes) (lines : List (List Char)) (blank : List Char) (body rest : Bytes) : Prop where
  stream_eq : stream = lineBytes (lines ++ [blank]) ++ body ++ rest
  block : HeaderBlock lines blank body.length
  fits : body.length ≤ maxFrameBytes

theorem Decomposes.readHeaders {stream body rest : Bytes} {lines : List (List Char)} {blank : List Char}
    (h : Decomposes stream lines blank body rest) (ended : Bool) :
    readHeaders ended false none [] stream = some (.length body.length, body ++ rest) := by
  rw [h.stream_eq, List.append_assoc]
  exact h.block.readHeaders ended (body ++ rest)

theorem Decomposes.readFrom {stream body rest : Bytes} {lines : List (List Char)} {blank : List Char}
    (h : Decomposes stream lines blank body rest) (ended : Bool) :
    readFrom ended stream = some (readingOf body, rest) := by
  rw [Frame.readFrom, h.readHeaders ended]
  exact readBody_append ended h.fits rest

/-- The reader itself shows that body and rest are determined, and then the lines are what is left. -/
theorem Decomposes.unique {stream body rest body' rest' : Bytes} {lines lines' : List (List Char)}
    {blank blank' : List Char} (h : Decomposes stream lines blank body rest)
    (h' : Decomposes stream lines' blank' body' rest') :
    lines = lines' ∧ blank = blank' ∧ body = body' ∧ rest = rest' := by
  have hread := (h.readHeaders true).symm.trans (h'.readHeaders true)
  rw [Option.some_inj, Prod.mk.injEq, Headers.length.injEq] at hread
  obtain ⟨hlen, hbehind⟩ := hread
  obtain ⟨rfl, rfl⟩ := List.append_inj hbehind hlen
  have hstream := h.stream_eq.symm.trans h'.stream_eq
  rw [List.append_assoc, List.append_assoc] at hstream
  have hlines := lineBytes_inj h.block.unbroken h'.block.unbroken (List.append_cancel_right hstream)
  obtain ⟨rfl, hblank⟩ := List.append_inj' hlines rfl
  exact ⟨rfl, (List.cons.inj hblank).1, rfl, rfl⟩

/-- All that reading a body of `n` bytes can come to, and what it leaves. -/
inductive BodyRead (ended : Bool) (n : Nat) (stream : Bytes) : Reading → Bytes → Prop where
  | tooLarge (h : maxFrameBytes < n) : BodyRead ended n stream (.failed (.tooLarge n)) stream
  | short (hended : ended = true) (hn : n ≤ maxFrameBytes) (h : stream.length < n) :
      BodyRead ended n stream (.failed (.stream .earlyEof)) []
  | whole {body rest : Bytes} (hn : n ≤ maxFrameBytes) (hstream : stream = body ++ rest) (hlen : body.length = n) :
      BodyRead ended n stream (readingOf body) rest

theorem bodyRead_of_readBody {ended : Bool} {n : Nat} {stream rest : Bytes} {r : Reading}
    (h : readBody ended n stream = some (r, rest)) : BodyRead ended n stream r rest := by
  by_cases hmax : maxFrameBytes < n
  · rw [readBody, if_pos hmax] at h
    cases h
    exact .tooLarge hmax
  · have hn : n ≤ maxFrameBytes := Nat.not_lt.mp hmax
    by_cases hlen : stream.length < n
    · have htake : (stream.take n).length < n := Nat.lt_of_le_of_lt (List.length_take_le' n stream) hlen
      simp only [readBody, if_neg hmax, if_pos htake] at h
      split at h
      · rename_i hended
        cases h
        exact .short hended hn hlen
      · cases h
    · have htake : (stream.take n).length = n := List.length_take_of_le (Nat.not_lt.mp hlen)
      have hfits : (stream.take n).length ≤ maxFrameBytes := by omega
      have hread := readBody_append ended hfits (stream.drop n)
      rw [htake, List.take_append_drop, h] at hread
      cases hread
      exact .whole hn (List.take_append_drop n stream).symm htake

theorem message_of_readBody {ended : Bool} {n : Nat} {stream rest : Bytes} {v : Json}
    (h : readBody ended n stream = some (.message v, rest)) :
    ∃ body, stream = body ++ rest ∧ body.length = n ∧ n ≤ maxFrameBytes ∧ Json.parse? body = some v := by
  generalize hr : Reading.message v = r at h
  cases bodyRead_of_readBody h with
  | tooLarge h => cases hr
  | short hended hn h => cases hr
  | @whole body rest hn hstream hlen =>
    refine ⟨body, hstream, hlen, hn, ?_⟩
    unfold readingOf at hr
    split at hr
    · rename_i w hparse
      cases hr
      exact hparse
    · cases hr

theorem message_of_readFrom {ended : Bool} {stream rest : Bytes} {v : Json}
    (h : readFrom ended stream = some (.message v, rest)) :
    ∃ lines blank body, Decomposes stream lines blank body rest ∧ Json.parse? body = some v := by
  unfold readFrom at h
  split at h
  · cases h
  · rename_i n behind hheaders
    obtain ⟨body, rfl, rfl, hmax, hparse⟩ := message_of_readBody h
    obtain ⟨lines, blank, hopens⟩ := opens_of_readHeaders ended hheaders
    obtain ⟨tail, hstream, hend⟩ := hopens.ends
    cases hend with
    | line =>
      refine ⟨lines, blank, body, ⟨?_, hopens.block, hmax⟩, hparse⟩
      have hblank := lineBytes_cons blank [] (body ++ rest)
      rw [hstream, lineBytes_append, List.append_assoc, List.append_assoc, hblank]
      rfl
    | cut hended hrest =>
      -- The stream ended with the blank line, so the body is empty.
      obtain ⟨rfl, rfl⟩ := List.append_eq_nil_iff.mp hrest
      cases hparse
  · cases h
  · cases h

/-- A message is returned, and a rest left, just where the stream is a frame and that rest: lines of text, of which
the last alone is blank, at least one of them a length field, every length field a numeral, the last numeral the length
of the body, and the body the text of the message. There is one way to take a stream apart like this. -/
theorem message_read_iff_frame (ended : Bool) (stream : Bytes) :
    (∀ v rest, readFrom ended stream = some (.message v, rest) ↔
      ∃ lines blank body, Decomposes stream lines blank body rest ∧ Json.parse? body = some v) ∧
    ∀ lines blank body rest lines' blank' body' rest', Decomposes stream lines blank body rest →
      Decomposes stream lines' blank' body' rest' →
        lines = lines' ∧ blank = blank' ∧ body = body' ∧ rest = rest' := by
  refine ⟨fun v rest => ⟨message_of_readFrom, ?_⟩, fun _ _ _ _ _ _ _ _ h h' => h.unique h'⟩
  rintro ⟨lines, blank, body, hframe, hparse⟩
  rw [hframe.readFrom ended, readingOf, hparse]

/-- Two length fields in other spellings, of which the second counts, and a blank line of wide spaces. -/
theorem message_read_iff_frame_spelled :
    let lines :=
      ["X: Content-Length: 7".toList, "content-length : 9".toList, "\u00a0CONTENT-Length\u2003:\t+004 \r".toList]
    let stream := lineBytes (lines ++ ["\u3000".toList]) ++ Bytes.ofString "null!"
    Decomposes stream lines "\u3000".toList (Bytes.ofString "null") (Bytes.ofString "!") ∧
      readFrom false stream = some (.message .null, Bytes.ofString "!") ∧
      ∀ lines' blank body rest, Decomposes stream lines' blank body rest → body = Bytes.ofString "null" := by
  intro lines stream
  have hleads : Leads none lines (some 4) := by
    apply Leads.other (classifyLine_eq_iff.mp (by decide))
    apply Leads.length (n := 9) (classifyLine_eq_iff.mp (by decide))
    apply Leads.length (n := 4) (classifyLine_eq_iff.mp (by decide))
    exact .nil _
  have hblock : HeaderBlock lines "\u3000".toList 4 := hleads.block (by decide) (by decide)
  have hframe : Decomposes stream lines "\u3000".toList (Bytes.ofString "null") (Bytes.ofString "!") :=
    ⟨by rw [List.append_assoc]; rfl, hblock, by decide⟩
  refine ⟨hframe, ?_, ?_⟩
  · exact ((message_read_iff_frame false stream).1 _ _).mpr ⟨_, _, _, hframe, rfl⟩
  · intro lines' blank body rest h
    exact ((message_read_iff_frame false stream).2 _ _ _ _ _ _ _ _ h hframe).2.2.1

end LspClient.Frame
