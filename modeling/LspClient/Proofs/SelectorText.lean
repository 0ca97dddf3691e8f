import LspClient.Selector

/-!
# Selectors read back from their text

The lexer stands between two tokens before and after each piece of a selector's text, so each piece adds its own
tokens to those found, whatever has been found before and whatever comes next. The tokens of a filter likewise take
the document machine from one place in the list of filters to the next. Only the two texts of a filter are not fixed,
and a text comes back from its literal because every character is written as one fragment that denotes it.
-/

namespace LspClient.Json

/-- The fragment that a character is written as: control characters without a letter of their own go by their
code. -/
def Fragment.ofChar (c : Char) : Fragment :=
  if c.toNat < 0x20 ∧ c ∉ ['\x08', '\x0c', '\n', '\r', '\t'] then .unit c.toNat else .char c

/-- The literal of a text. -/
def Fragment.literal (s : String) : List Fragment :=
  s.toList.map ofChar

theorem Fragment.decodeFrom_map_ofChar (done cs : List Char) :
    decodeFrom done (cs.map ofChar) = some (done.reverse ++ cs) := by
  induction cs generalizing done with
  | nil => simp [decodeFrom]
  | cons c cs ih =>
    rw [List.map_cons, ofChar]
    split
    · rename_i hc
      have hhigh : isHighSurrogate c.toNat = false := by
        simp only [isHighSurrogate, Bool.and_eq_false_iff, decide_eq_false_iff_not]
        omega
      have hlow : isLowSurrogate c.toNat = false := by
        simp only [isLowSurrogate, Bool.and_eq_false_iff, decide_eq_false_iff_not]
        omega
      rw [decodeFrom.eq_def]
      simp [hhigh, hlow, Char.ofNat_toNat, ih]
    · rw [decodeFrom, ih]
      simp

@[simp] theorem Fragment.decode?_literal (s : String) : decode? (literal s) = some s := by
  rw [decode?, literal, decodeFrom_map_ofChar]
  simp

namespace Token

theorem run_code {n : Nat} (h : n < 256) (read : List Fragment) (found : List Token) (rest : List Char) :
    run ⟨.string read, found⟩
        ('\\' :: 'u' :: '0' :: '0' :: Hex.digit false (n / 16) :: Hex.digit false (n % 16) :: rest) =
      run ⟨.string (.unit n :: read), found⟩ rest := by
  have hhigh : Hex.value? (Hex.digit false (n / 16)) = some (n / 16) := Hex.value?_digit false (by omega)
  have hlow : Hex.value? (Hex.digit false (n % 16)) = some (n % 16) := Hex.value?_digit false (by omega)
  change run ⟨.code read 2 0, found⟩ (Hex.digit false (n / 16) :: Hex.digit false (n % 16) :: rest) = _
  simp [run, step, hhigh, hlow, Nat.div_add_mod]

theorem run_escapeChar (c : Char) (read : List Fragment) (found : List Token) (rest : List Char) :
    run ⟨.string read, found⟩ (escapeChar c ++ rest) = run ⟨.string (Fragment.ofChar c :: read), found⟩ rest := by
  by_cases hletter : c ∈ ['\x22', '\\', '\x08', '\x0c', '\n', '\r', '\t']
  · simp only [List.mem_cons, List.not_mem_nil, or_false] at hletter
    rcases hletter with rfl | rfl | rfl | rfl | rfl | rfl | rfl <;> rfl
  · simp only [List.mem_cons, List.not_mem_nil, or_false, not_or] at hletter
    obtain ⟨hquote, hslash, hb, hf, hn, hr, ht⟩ := hletter
    unfold escapeChar Fragment.ofChar
    rw [if_neg hquote, if_neg hslash, if_neg hb, if_neg hf, if_neg hn, if_neg hr, if_neg ht]
    by_cases hcontrol : c.toNat < 0x20
    · rw [if_pos hcontrol, if_pos ⟨hcontrol, by simp [hb, hf, hn, hr, ht]⟩]
      exact run_code (by omega) read found rest
    · rw [if_neg hcontrol, if_neg fun h => hcontrol h.1, List.singleton_append, run]
      simp [step, hquote, hslash, hcontrol]

/-- A mark adds its token by evaluation. -/
theorem run_mark (c : Char) (t : Token) (found : List Token) (rest : List Char)
    (h : step ⟨.between, found⟩ c = some ⟨.between, t :: found⟩) :
    run ⟨.between, found⟩ (c :: rest) = run ⟨.between, t :: found⟩ rest := by
  rw [run, h]

theorem run_quote (s : String) (found : List Token) (rest : List Char) :
    run ⟨.between, found⟩ (quote s ++ rest) = run ⟨.between, .string (Fragment.literal s) :: found⟩ rest := by
  have hchars : ∀ (cs : List Char) (read : List Fragment),
      run ⟨.string read, found⟩ (cs.flatMap escapeChar ++ '\x22' :: rest) =
        run ⟨.between, .string (read.reverse ++ cs.map Fragment.ofChar) :: found⟩ rest := by
    intro cs
    induction cs with
    | nil =>
      intro read
      rw [List.map_nil, List.append_nil]
      rfl
    | cons c cs ih =>
      intro read
      rw [List.flatMap_cons, List.append_assoc, run_escapeChar, ih, List.reverse_cons, List.append_assoc]
      rfl
  have hopen : run ⟨.between, found⟩ (quote s ++ rest) =
      run ⟨.string [], found⟩ (s.toList.flatMap escapeChar ++ '\x22' :: rest) := by
    rw [quote, List.cons_append, List.append_assoc]
    rfl
  rw [hopen, hchars]
  rfl

end Token

end LspClient.Json

namespace LspClient.DocumentFilter
open Json

/-- The tokens of a filter. -/
def tokens (f : DocumentFilter) : List Token :=
  [.openObject, .string (Fragment.literal "scheme"), .colon, .string (Fragment.literal f.scheme), .comma,
    .string (Fragment.literal "language"), .colon, .string (Fragment.literal f.language), .closeObject]

/-- The document of a filter. -/
def document (f : DocumentFilter) : Json.Syntax :=
  .object [(Fragment.literal "scheme", .string (Fragment.literal f.scheme)),
    (Fragment.literal "language", .string (Fragment.literal f.language))]

theorem chars_eq (f : DocumentFilter) :
    f.chars = '\x7b' :: (quote "scheme" ++ ':' :: (quote f.scheme ++ ',' :: (quote "language" ++ ':' ::
      (quote f.language ++ ['\x7d'])))) := by
  have hscheme : "\x7b\x22scheme\x22:".toList = '\x7b' :: (quote "scheme" ++ [':']) := by decide
  have hlanguage : ",\x22language\x22:".toList = ',' :: (quote "language" ++ [':']) := by decide
  unfold chars
  rw [hscheme, hlanguage]
  simp only [List.cons_append, List.append_assoc, List.nil_append]

theorem run_chars (f : DocumentFilter) (found : List Token) (rest : List Char) :
    Token.run ⟨.between, found⟩ (f.chars ++ rest) = Token.run ⟨.between, f.tokens.reverse ++ found⟩ rest := by
  rw [chars_eq, List.cons_append, Token.run_mark _ .openObject _ _ rfl,
    List.append_assoc, Token.run_quote, List.cons_append, Token.run_mark _ .colon _ _ rfl,
    List.append_assoc, Token.run_quote, List.cons_append, Token.run_mark _ .comma _ _ rfl,
    List.append_assoc, Token.run_quote, List.cons_append, Token.run_mark _ .colon _ _ rfl,
    List.append_assoc, Token.run_quote, List.singleton_append, Token.run_mark _ .closeObject _ _ rfl]
  rfl

/-- A filter stands where a value may stand. -/
theorem run_tokens (f : DocumentFilter) {due : Document.Due} (hdue : due = .value ∨ due = .elementOrClose)
    (elements : List Json.Syntax) (outer : List Document.Frame) (rest : List Token) :
    Document.run ⟨.array elements :: outer, due⟩ (f.tokens ++ rest) =
      Document.run ⟨.array (f.document :: elements) :: outer, .separator⟩ rest := by
  rcases hdue with rfl | rfl <;> rfl

theorem ofSyntax?_document (f : DocumentFilter) : ofSyntax? f.document = some f := by
  simp [document, ofSyntax?, takeMember, text?]

end LspClient.DocumentFilter

namespace LspClient.DocumentSelector
open Json

theorem run_intercalate_chars (filters : List DocumentFilter) (found : List Token) (rest : List Char) :
    Token.run ⟨.between, found⟩ (List.intercalate [','] (filters.map DocumentFilter.chars) ++ rest) =
      Token.run ⟨.between, (List.intercalate [.comma] (filters.map DocumentFilter.tokens)).reverse ++ found⟩ rest := by
  induction filters generalizing found with
  | nil => rfl
  | cons f filters ih =>
    cases filters with
    | nil =>
      simp only [List.map_cons, List.map_nil, List.intercalate_singleton]
      exact f.run_chars found rest
    | cons g filters =>
      rw [List.map_cons, List.map_cons, List.map_cons, List.map_cons, List.intercalate_cons_cons,
        List.intercalate_cons_cons, List.append_assoc, List.append_assoc, f.run_chars, List.singleton_append,
        Token.run_mark _ .comma _ _ rfl, ← List.map_cons, ih, List.map_cons]
      simp

/-- The filters of a list come one by one, the first where the list has just been opened and each other one behind a
comma. -/
theorem run_intercalate_tokens (f : DocumentFilter) (filters : List DocumentFilter) {due : Document.Due}
    (hdue : due = .value ∨ due = .elementOrClose) (elements : List Json.Syntax) (outer : List Document.Frame)
    (rest : List Token) :
    Document.run ⟨.array elements :: outer, due⟩
        (List.intercalate [.comma] ((f :: filters).map DocumentFilter.tokens) ++ rest) =
      Document.run ⟨.array (((f :: filters).map DocumentFilter.document).reverse ++ elements) :: outer, .separator⟩
        rest := by
  induction filters generalizing f due elements with
  | nil =>
    rw [List.map_singleton, List.intercalate_singleton, f.run_tokens hdue]
    rfl
  | cons g filters ih =>
    have hcomma : ∀ (elements : List Json.Syntax) (rest : List Token),
        Document.run ⟨.array elements :: outer, .separator⟩ (.comma :: rest) =
          Document.run ⟨.array elements :: outer, .value⟩ rest := fun _ _ => rfl
    have hrest := ih g (.inl rfl) (f.document :: elements)
    rw [List.map_cons, List.map_cons, List.intercalate_cons_cons, List.append_assoc, List.append_assoc,
      f.run_tokens hdue, List.singleton_append, hcomma, ← List.map_cons, hrest]
    simp

theorem lex?_chars (s : DocumentSelector) :
    Token.lex? s.chars = some (.openArray :: (List.intercalate [.comma] (s.filters.map DocumentFilter.tokens) ++
      [.closeArray])) := by
  rw [Token.lex?, chars, Token.run_mark _ .openArray _ _ rfl, run_intercalate_chars,
    Token.run_mark _ .closeArray _ _ rfl, Token.run, Option.bind_some, Token.finish]
  simp

theorem ofChars?_chars (s : DocumentSelector) :
    Document.ofChars? s.chars = some (.array (s.filters.map DocumentFilter.document)) := by
  rw [Document.ofChars?, lex?_chars, Option.bind_some, Document.ofTokens?]
  have hopen : ∀ rest : List Token,
      Document.run ⟨[], .value⟩ (.openArray :: rest) = Document.run ⟨[.array []], .elementOrClose⟩ rest := fun _ => rfl
  cases hfilters : s.filters with
  | nil => rfl
  | cons f filters =>
    have hclose : ∀ elements : List Json.Syntax,
        Document.run ⟨[.array elements], .separator⟩ [.closeArray] = some ⟨[], .nothing (.array elements.reverse)⟩ :=
      fun _ => rfl
    rw [hopen, run_intercalate_tokens f filters (.inr rfl), hclose]
    simp

theorem mapM_document (filters : List DocumentFilter) :
    (filters.map DocumentFilter.document).mapM DocumentFilter.ofSyntax? = some filters := by
  induction filters with
  | nil => rfl
  | cons f filters ih => simp [List.mapM_cons, DocumentFilter.ofSyntax?_document, ih]

theorem ofText?_render (s : DocumentSelector) : ofText? s.render = some s := by
  rw [ofText?, render, String.toList_ofList, ofChars?_chars, Option.bind_some, ofSyntax?, mapM_document]
  rfl

theorem mem_matching_iff (s : DocumentSelector) (scheme language : String) (i : Nat) :
    i ∈ s.matching scheme language ↔ ∃ f, s.filters[i]? = some f ∧ f.isMatch scheme language = true := by
  simp [matching, List.mem_zipIdx_iff_getElem?]

theorem isMatch_iff_matching (s : DocumentSelector) (scheme language : String) :
    s.isMatch scheme language = true ↔ ∃ i, i ∈ s.matching scheme language := by
  rw [isMatch, List.any_eq_true]
  constructor
  · rintro ⟨f, hf, hmatch⟩
    obtain ⟨i, hi⟩ := List.mem_iff_getElem?.mp hf
    exact ⟨i, (s.mem_matching_iff scheme language i).mpr ⟨f, hi, hmatch⟩⟩
  · rintro ⟨i, hi⟩
    obtain ⟨f, hf, hmatch⟩ := (s.mem_matching_iff scheme language i).mp hi
    exact ⟨f, List.mem_of_getElem? hf, hmatch⟩

/-- A selector comes back from its text as it was, with its filters in their order. So what is read back selects just
the documents that some filter of the selector matches, and names the positions of these filters. -/
theorem selector_reads_back (s : DocumentSelector) :
    ofText? s.render = some s ∧
    ∀ scheme language : String,
      (s.isMatch scheme language = true ↔ ∃ i, i ∈ s.matching scheme language) ∧
      ∀ i, i ∈ s.matching scheme language ↔
        ∃ f, s.filters[i]? = some f ∧ Text.sameIgnoringCase f.scheme.toList scheme.toList = true ∧
          f.language = language := by
  refine ⟨ofText?_render s, fun scheme language => ⟨s.isMatch_iff_matching scheme language, fun i => ?_⟩⟩
  rw [mem_matching_iff]
  simp [DocumentFilter.isMatch]

end LspClient.DocumentSelector
