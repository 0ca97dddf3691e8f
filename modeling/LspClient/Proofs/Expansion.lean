import LspClient.Proofs.Offsets
import LspClient.Proofs.Segmentation
import Mathlib.Data.List.Basic

/-!
# Expansion of configured values

What an environment holds for a name is said in terms of its last bindings. A value is then expanded to the texts of
its segmentation with what the environment holds for the names in between. A loop that goes through the bytes of the
value by offsets, and may cut them only between characters, comes to the same.

An environment is searched for an entry that begins with the name and an equals sign. So a name with an equals sign in
it, which no variable can have, is met by a variable whose value begins with the rest of it.
-/

namespace LspClient.Bindings

/-- The name is bound to the value, and not bound again. -/
def LastBound (bs : Bindings) (key value : Bytes) : Prop :=
  ∃ before after, bs = before ++ (key, value) :: after ∧ ∀ b ∈ after, b.1 ≠ key

/-- A text that can be the name of a variable. -/
structure IsName (name : List Char) : Prop where
  filled : name ≠ []
  plain : '=' ∉ name
  noZero : '\x00' ∉ name

/-- What an environment holds for a name. -/
inductive Holds (bs : Bindings) : List Char → Bytes → Prop where
  | named {name : List Char} {value : Bytes} (hname : IsName name)
      (hlast : LastBound bs (Utf8.encode name) value) : Holds bs name value
  /-- The value of a variable goes on as the name does behind its first equals sign. -/
  | within {key more : List Char} {value : Bytes} (hkey : IsName key) (hmore : '\x00' ∉ more)
      (hlast : LastBound bs (Utf8.encode key) (Utf8.encode more ++ equals :: value)) :
      Holds bs (key ++ '=' :: more) value

theorem last?_eq_some_iff {bs : Bindings} {key value : Bytes} : last? bs key = some value ↔ LastBound bs key value := by
  rw [last?, List.lookup_eq_some_iff]
  constructor
  · rintro ⟨after, before, hbs, hafter⟩
    refine ⟨before.reverse, after.reverse, ?_, fun b hb heq => ?_⟩
    · rw [← List.reverse_reverse bs, hbs]
      simp
    · have hne := hafter b (List.mem_reverse.mp hb)
      simp [heq] at hne
  · rintro ⟨before, after, rfl, hafter⟩
    refine ⟨after.reverse, before.reverse, by simp, fun b hb => ?_⟩
    have hne := hafter b (List.mem_reverse.mp hb)
    simpa using Ne.symm hne

/-- How a name is looked up that is taken apart at its first equals sign. -/
theorem value?_eq_some_iff {bs : Bindings} {key more value : Bytes} (hkey : equals ∉ key)
    (hmore : ∀ b ∈ more.head?, b = equals) :
    value? bs (key ++ more) = some value ↔ key ≠ [] ∧ 0 ∉ key ++ more ∧
      ∃ found, LastBound bs key found ∧ more ++ equals :: value = equals :: found := by
  have htake : (key ++ more).takeWhile (fun b => decide (b ≠ equals)) = key := by
    have hall : ∀ b ∈ key, decide (b ≠ equals) = true := by
      intro b hb
      exact decide_eq_true fun heq => hkey (heq ▸ hb)
    have hstop : more.takeWhile (fun b => decide (b ≠ equals)) = [] := by
      cases more with
      | nil => rfl
      | cons b more => simp [hmore b rfl]
    rw [List.takeWhile_append_of_pos hall, hstop, List.append_nil]
  have hfound : ∀ found, (more ++ [equals]).isPrefixOf? (equals :: found) = some value ↔
      more ++ equals :: value = equals :: found := by
    intro found
    rw [List.isPrefixOf?_eq_some_iff_append_eq, List.append_assoc, List.singleton_append]
  simp only [value?, htake, List.drop_left, Bool.or_eq_true, decide_eq_true_eq, List.contains_iff_mem]
  split
  · rename_i hbad
    refine ⟨nofun, fun h => ?_⟩
    rcases hbad with hbad | hbad
    · exact absurd hbad h.1
    · exact absurd hbad h.2.1
  · rename_i hgood
    rw [not_or] at hgood
    simp only [Option.bind_eq_some_iff, last?_eq_some_iff, hfound]
    exact ⟨fun h => ⟨hgood.1, hgood.2, h⟩, fun h => h.2.2⟩

theorem equals_mem_encode_iff {cs : List Char} : equals ∈ Utf8.encode cs ↔ '=' ∈ cs :=
  Utf8.mem_encode_iff (by decide) (by decide)

theorem zero_mem_encode_iff {cs : List Char} : 0 ∈ Utf8.encode cs ↔ '\x00' ∈ cs :=
  Utf8.mem_encode_iff (by decide) (by decide)

theorem encode_equals_cons (cs : List Char) : Utf8.encode ('=' :: cs) = equals :: Utf8.encode cs := by
  have hequals : Utf8.encodeChar '=' = [equals] := by decide
  rw [Utf8.encode_cons, hequals, List.singleton_append]

theorem encode_eq_nil_iff {cs : List Char} : Utf8.encode cs = [] ↔ cs = [] := by
  constructor
  · intro h
    exact Utf8.encode_injective (h.trans rfl)
  · rintro rfl
    rfl

section Lookup
variable {bs : Bindings} {value : Bytes}

theorem value?_plain_iff {name : List Char} (h : '=' ∉ name) :
    value? bs (Utf8.encode name) = some value ↔ IsName name ∧ LastBound bs (Utf8.encode name) value := by
  have hlook : value? bs (Utf8.encode name ++ []) = some value ↔ _ :=
    value?_eq_some_iff (fun hmem => h (equals_mem_encode_iff.mp hmem)) nofun
  rw [List.append_nil, List.nil_append] at hlook
  rw [hlook, Ne, encode_eq_nil_iff, zero_mem_encode_iff]
  constructor
  · rintro ⟨hfilled, hzero, found, hlast, heq⟩
    cases heq
    exact ⟨⟨hfilled, h, hzero⟩, hlast⟩
  · rintro ⟨hname, hlast⟩
    exact ⟨hname.filled, hname.noZero, value, hlast, rfl⟩

theorem value?_within_iff {key more : List Char} (h : '=' ∉ key) :
    value? bs (Utf8.encode (key ++ '=' :: more)) = some value ↔ IsName key ∧ '\x00' ∉ more ∧
      LastBound bs (Utf8.encode key) (Utf8.encode more ++ equals :: value) := by
  have hlook : value? bs (Utf8.encode key ++ equals :: Utf8.encode more) = some value ↔ _ :=
    value?_eq_some_iff (fun hmem => h (equals_mem_encode_iff.mp hmem)) fun b hb => (Option.some.inj hb).symm
  have hzero : 0 ∉ Utf8.encode key ++ equals :: Utf8.encode more ↔ '\x00' ∉ key ∧ '\x00' ∉ more := by
    rw [← encode_equals_cons, ← Utf8.encode_append, zero_mem_encode_iff]
    simp
  rw [Utf8.encode_append, encode_equals_cons, hlook, Ne, encode_eq_nil_iff, hzero]
  constructor
  · rintro ⟨hfilled, ⟨hkey, hmore⟩, found, hlast, heq⟩
    obtain ⟨-, rfl⟩ := List.cons.inj heq
    exact ⟨⟨hfilled, h, hkey⟩, hmore, hlast⟩
  · rintro ⟨hkey, hmore, hlast⟩
    exact ⟨hkey.filled, ⟨hkey.noZero, hmore⟩, _, hlast, rfl⟩

theorem holds_iff {name : List Char} : Holds bs name value ↔ value? bs (Utf8.encode name) = some value := by
  constructor
  · intro h
    cases h with
    | named hname hlast => exact (value?_plain_iff hname.plain).mpr ⟨hname, hlast⟩
    | within hkey hmore hlast => exact (value?_within_iff hkey.plain).mpr ⟨hkey, hmore, hlast⟩
  · intro h
    by_cases hequals : '=' ∈ name
    · obtain ⟨key, more, rfl, hkey⟩ := List.eq_append_cons_of_mem hequals
      obtain ⟨hname, hmore, hlast⟩ := (value?_within_iff hkey).mp h
      exact .within hname hmore hlast
    · obtain ⟨hname, hlast⟩ := (value?_plain_iff hequals).mp h
      exact .named hname hlast

end Lookup

theorem text?_eq_some_iff {bs : Bindings} {name : List Char} {text : String} :
    text? bs (String.ofList name) = some text ↔ Holds bs name (Utf8.encode text.toList) := by
  have htext : ∀ value, Bytes.text? value = some text ↔ value = Utf8.encode text.toList := by
    intro value
    rw [← Utf8.decode?_eq_some_iff, Bytes.text?, Option.map_eq_some_iff]
    constructor
    · rintro ⟨cs, hcs, rfl⟩
      rwa [String.toList_ofList]
    · intro h
      exact ⟨text.toList, h, String.ofList_toList⟩
  rw [text?, Bytes.ofString, String.toList_ofList, Option.bind_eq_some_iff]
  simp only [htext, holds_iff]
  constructor
  · rintro ⟨value, hvalue, rfl⟩
    exact hvalue
  · intro h
    exact ⟨_, h, rfl⟩

/-- What a reference to a name is replaced by: the text that the environment holds for it, or nothing. -/
def Evaluates (bs : Bindings) (name result : List Char) : Prop :=
  Holds bs name (Utf8.encode result) ∨ (∀ cs, ¬ Holds bs name (Utf8.encode cs)) ∧ result = []

theorem evaluates_iff {bs : Bindings} {name result : List Char} :
    Evaluates bs name result ↔ result = ((text? bs (String.ofList name)).getD "").toList := by
  cases htext : text? bs (String.ofList name) with
  | none =>
    have hnone : ∀ cs, ¬ Holds bs name (Utf8.encode cs) := by
      intro cs h
      rw [← String.toList_ofList (l := cs), ← text?_eq_some_iff, htext] at h
      cases h
    constructor
    · rintro (h | ⟨-, rfl⟩)
      · exact absurd h (hnone result)
      · rfl
    · intro h
      exact .inr ⟨hnone, h⟩
  | some text =>
    have hholds := text?_eq_some_iff.mp htext
    constructor
    · rintro (h | ⟨hnone, -⟩)
      · rw [holds_iff] at h hholds
        rw [h, Option.some_inj] at hholds
        exact Utf8.encode_injective hholds
      · exact absurd hholds (hnone text.toList)
    · rintro rfl
      exact .inl hholds

/-- The text that a variable with just this name has, or nothing. -/
def EvaluatesName (bs : Bindings) (name result : List Char) : Prop :=
  (IsName name ∧ LastBound bs (Utf8.encode name) (Utf8.encode result)) ∨
    (∀ cs, ¬ (IsName name ∧ LastBound bs (Utf8.encode name) (Utf8.encode cs))) ∧ result = []

theorem evaluatesName_of_equals {bs : Bindings} {name result : List Char} (h : '=' ∈ name) :
    EvaluatesName bs name result ↔ result = [] := by
  have hname : ¬ IsName name := fun hname => hname.plain h
  simp [EvaluatesName, hname]

theorem evaluatesName_of_plain {bs : Bindings} {name result : List Char} (h : '=' ∉ name) :
    EvaluatesName bs name result ↔ Evaluates bs name result := by
  have hholds : ∀ cs, Holds bs name (Utf8.encode cs) ↔
      IsName name ∧ LastBound bs (Utf8.encode name) (Utf8.encode cs) := by
    intro cs
    rw [holds_iff, value?_plain_iff h]
  simp only [EvaluatesName, Evaluates, hholds]

end LspClient.Bindings

namespace LspClient.Config

/-- One turn of the loop on what is left of a value: the text before the first reference, the name in it and what is
behind, or `none` inside if there is no further one. It is `none` outside if a slice cannot be taken. -/
def turn? (rest : Bytes) : Option (Option (Bytes × Bytes × Bytes)) :=
  match Bytes.offset? (Bytes.ofString "$\x7b") rest with
  | none => some none
  | some start =>
    match Bytes.slice? rest (start + 2) rest.length with
    | none => none
    | some opened =>
      match Bytes.offset? (Bytes.ofString "\x7d") opened with
      | none => some none
      | some length => do
        let before ← Bytes.slice? rest 0 start
        let name ← Bytes.slice? rest (start + 2) (start + 2 + length)
        let behind ← Bytes.slice? rest (start + 3 + length) rest.length
        return some (before, name, behind)

theorem length_of_turn? {rest before name behind : Bytes} (h : turn? rest = some (some (before, name, behind))) :
    behind.length < rest.length := by
  unfold turn? at h
  split at h
  · cases h
  · split at h
    · cases h
    · split at h
      · cases h
      · simp only [bind, Option.bind_eq_some_iff, pure, Option.some_inj, Prod.mk.injEq] at h
        obtain ⟨-, -, -, -, last, hslice, -, -, rfl⟩ := h
        have hlength := Bytes.length_of_slice? hslice
        omega

/-- Replaces the references one after the other. -/
def expandLoop (environment : Bindings) (out rest : Bytes) : Option Bytes :=
  match h : turn? rest with
  | none => none
  | some none => some (out ++ rest)
  | some (some (before, name, behind)) =>
    match Bytes.text? name with
    | none => none
    | some name =>
      have := length_of_turn? h
      expandLoop environment (out ++ before ++ Bytes.ofString ((Bindings.text? environment name).getD "")) behind
termination_by rest.length

section Turn
variable {l v : List Char}

theorem ofString_opening : Bytes.ofString "$\x7b" = Utf8.encode opening := by decide

theorem ofString_closing : Bytes.ofString "\x7d" = Utf8.encode ['\x7d'] := by decide

theorem length_encode_opening : (Utf8.encode opening).length = 2 := by decide

theorem length_encode_closing : (Utf8.encode ['\x7d']).length = 1 := by decide

theorem offset?_opening (hl : ¬ opening <:+: l) (behind : List Char) :
    Bytes.offset? (Bytes.ofString "$\x7b") (Utf8.encode (l ++ opening ++ behind)) = some (Utf8.encode l).length := by
  rw [ofString_opening]
  apply Bytes.offset?_encode_first opening_ne_nil
  intro front back h
  have hfirst : l ++ '$' :: '\x7b' :: behind = front ++ opening ++ back := by
    rw [← h, List.append_assoc]
    rfl
  have hback := (suffix_of_first_opening hl hfirst).length_le
  have hlength := congrArg List.length h
  simp only [List.length_append] at hlength
  omega

theorem offset?_closing (hv : '\x7d' ∉ v) (behind : List Char) :
    Bytes.offset? (Bytes.ofString "\x7d") (Utf8.encode (v ++ ['\x7d'] ++ behind)) = some (Utf8.encode v).length := by
  rw [ofString_closing]
  apply Bytes.offset?_encode_first (List.cons_ne_nil _ _)
  intro front back h
  apply Nat.not_lt.mp
  intro hlt
  -- A brace before the end of the name would be in the name.
  have hat := congrArg (fun cs : List Char => cs[front.length]?) h
  simp only [List.append_assoc, List.getElem?_append_left hlt, List.getElem?_append_right (Nat.le_refl _),
    Nat.sub_self, List.singleton_append, List.getElem?_cons_zero] at hat
  exact hv (List.mem_of_getElem? hat)

theorem turn?_reference (hl : ¬ opening <:+: l) (hv : '\x7d' ∉ v) (behind : List Char) :
    turn? (Utf8.encode (l ++ '$' :: '\x7b' :: (v ++ '\x7d' :: behind))) =
      some (some (Utf8.encode l, Utf8.encode v, Utf8.encode behind)) := by
  have hvalue : l ++ '$' :: '\x7b' :: (v ++ '\x7d' :: behind) = l ++ opening ++ (v ++ ['\x7d'] ++ behind) := by
    simp [opening]
  rw [hvalue]
  have hlength : (Utf8.encode (l ++ opening ++ (v ++ ['\x7d'] ++ behind))).length =
      (Utf8.encode l).length + 2 + (Utf8.encode v).length + 1 + (Utf8.encode behind).length := by
    simp only [Utf8.encode_append, List.length_append, length_encode_opening, length_encode_closing]
    omega
  generalize hbytes : Utf8.encode (l ++ opening ++ (v ++ ['\x7d'] ++ behind)) = bytes at hlength
  have hstart : Bytes.offset? (Bytes.ofString "$\x7b") bytes = some (Utf8.encode l).length := by
    rw [← hbytes]
    exact offset?_opening hl _
  have hopened : Bytes.slice? bytes ((Utf8.encode l).length + 2) bytes.length =
      some (Utf8.encode (v ++ ['\x7d'] ++ behind)) := by
    apply Bytes.slice?_encode (l ++ opening) (v ++ ['\x7d'] ++ behind) []
    · rw [← hbytes, List.append_nil]
    · rw [Utf8.encode_append, List.length_append, length_encode_opening]
    · simp only [Utf8.encode_append, List.length_append, length_encode_closing]
      omega
  have hbefore : Bytes.slice? bytes 0 (Utf8.encode l).length = some (Utf8.encode l) := by
    apply Bytes.slice?_encode [] l (opening ++ (v ++ ['\x7d'] ++ behind))
    · rw [← hbytes, List.nil_append, List.append_assoc]
    · rfl
    · rw [Nat.zero_add]
  have hname : Bytes.slice? bytes ((Utf8.encode l).length + 2) ((Utf8.encode l).length + 2 + (Utf8.encode v).length) =
      some (Utf8.encode v) := by
    apply Bytes.slice?_encode (l ++ opening) v (['\x7d'] ++ behind)
    · rw [← hbytes]
      simp
    · rw [Utf8.encode_append, List.length_append, length_encode_opening]
    · rfl
  have hbehind : Bytes.slice? bytes ((Utf8.encode l).length + 3 + (Utf8.encode v).length) bytes.length =
      some (Utf8.encode behind) := by
    apply Bytes.slice?_encode (l ++ opening ++ v ++ ['\x7d']) behind []
    · rw [← hbytes]
      simp
    · simp only [Utf8.encode_append, List.length_append, length_encode_opening, length_encode_closing]
      omega
    · omega
  simp only [turn?, hstart, hopened, offset?_closing hv, hbefore, hname, hbehind]
  rfl

theorem turn?_last {last : List Char} (h : ∀ before behind, last = before ++ opening ++ behind → '\x7d' ∉ behind) :
    turn? (Utf8.encode last) = some none := by
  by_cases hopening : opening <:+: last
  · obtain ⟨before, behind, hlast, hbefore⟩ := exists_first_opening hopening
    have hvalue : last = before ++ opening ++ behind := by
      rw [hlast]
      simp [opening]
    have hnone : ¬ ['\x7d'] <:+: behind := by
      rintro ⟨front, back, rfl⟩
      exact h _ _ hvalue (by simp)
    have hstart := offset?_opening hbefore behind
    have hopened : Bytes.slice? (Utf8.encode last) ((Utf8.encode before).length + 2) (Utf8.encode last).length =
        some (Utf8.encode behind) := by
      apply Bytes.slice?_encode (before ++ opening) behind []
      · rw [hvalue, List.append_nil]
      · rw [Utf8.encode_append, List.length_append, length_encode_opening]
      · rw [hvalue]
        simp only [Utf8.encode_append, List.length_append, length_encode_opening]
    rw [← hvalue] at hstart
    have hclosing : Bytes.offset? (Bytes.ofString "\x7d") (Utf8.encode behind) = none := by
      rw [ofString_closing]
      exact Bytes.offset?_encode_eq_none (List.cons_ne_nil _ _) hnone
    simp only [turn?, hstart, hopened, hclosing]
  · have hstart : Bytes.offset? (Bytes.ofString "$\x7b") (Utf8.encode last) = none := by
      rw [ofString_opening]
      exact Bytes.offset?_encode_eq_none opening_ne_nil hopening
    simp only [turn?, hstart]

end Turn

section Loop
variable (environment : Bindings) (out : Bytes)

theorem expandLoop_last {rest : Bytes} (h : turn? rest = some none) :
    expandLoop environment out rest = some (out ++ rest) := by
  rw [expandLoop.eq_def]
  split
  · rename_i hturn
    cases hturn.symm.trans h
  · rfl
  · rename_i hturn
    cases hturn.symm.trans h

theorem expandLoop_reference {rest before behind : Bytes} {name : List Char}
    (h : turn? rest = some (some (before, Utf8.encode name, behind))) :
    expandLoop environment out rest =
      expandLoop environment
        (out ++ before ++ Bytes.ofString ((Bindings.text? environment (String.ofList name)).getD "")) behind := by
  have htext : Bytes.text? (Utf8.encode name) = some (String.ofList name) := by
    rw [Bytes.text?, Utf8.decode?_encode, Option.map_some]
  rw [expandLoop.eq_def]
  split
  · rename_i hturn
    cases hturn.symm.trans h
  · rename_i hturn
    cases hturn.symm.trans h
  · rename_i hturn
    cases hturn.symm.trans h
    rw [htext]

/-- The induction is on the references of the segmentation, one for each turn of the loop. -/
theorem expandLoop_text {s : Segmentation} (h : s.Proper) :
    expandLoop environment out (Utf8.encode s.text) =
      some (out ++ Utf8.encode
        (s.fill fun v => ((Bindings.text? environment (String.ofList v)).getD "").toList)) := by
  obtain ⟨parts, last⟩ := s
  induction parts generalizing out with
  | nil => exact expandLoop_last environment out (turn?_last h.unclosed)
  | cons part parts ih =>
    obtain ⟨l, v⟩ := part
    have hturn := turn?_reference (h.plain (l, v) List.mem_cons_self) (h.named (l, v) List.mem_cons_self)
      (Segmentation.text ⟨parts, last⟩)
    rw [← Segmentation.text_cons] at hturn
    rw [expandLoop_reference environment out hturn, ih _ h.tail]
    simp [Segmentation.fill, Bytes.ofString]

end Loop

/-- A value has one proper segmentation, and is expanded to it with what the environment holds for the names. That is
what variables of just these names have unless a name has an equals sign and is met all the same. -/
theorem expansion_follows_grammar (environment : Bindings) (value : String) :
    ∃ s : Segmentation, (s.Proper ∧ s.text = value.toList) ∧
      (∀ t : Segmentation, t.Proper → t.text = value.toList → t = s) ∧
      ∃ e e' : List Char → List Char,
        (∀ name result, Bindings.Evaluates environment name result ↔ result = e name) ∧
        (∀ name result, Bindings.EvaluatesName environment name result ↔ result = e' name) ∧
        (expand environment value).toList = s.fill e ∧
        ((expand environment value).toList = s.fill e' ↔ ∀ part ∈ s.parts, '=' ∈ part.2 → e part.2 = []) ∧
        expandLoop environment [] (Bytes.ofString value) = some (Bytes.ofString (expand environment value)) := by
  obtain ⟨s, hs, htext⟩ := Segmentation.exists_proper value.toList
  have hfill := hs.toList_expandWith htext (Bindings.text? environment)
  have hloop := expandLoop_text environment [] hs
  generalize he : (fun name => ((Bindings.text? environment (String.ofList name)).getD "").toList) = e at hfill hloop
  have heval : ∀ name result, Bindings.Evaluates environment name result ↔ result = e name := by
    intro name result
    rw [Bindings.evaluates_iff, ← he]
  refine ⟨s, ⟨hs, htext⟩, fun t ht hvalue => ht.unique hs (hvalue.trans htext.symm), e,
    fun name => if '=' ∈ name then [] else e name, heval, ?_, hfill, ?_, ?_⟩
  · intro name result
    dsimp only
    split
    · rename_i hequals
      exact Bindings.evaluatesName_of_equals hequals
    · rename_i hplain
      rw [Bindings.evaluatesName_of_plain hplain, heval]
  · rw [expand, hfill, Segmentation.fill_eq_iff]
    · refine forall_congr' fun part => forall_congr' fun _ => ?_
      split
      · rename_i hequals
        exact ⟨fun h _ => h.symm, fun h => (h hequals).symm⟩
      · rename_i hplain
        exact ⟨fun _ hequals => absurd hequals hplain, fun _ => rfl⟩
    · intro name
      split
      · exact .inl rfl
      · exact .inr rfl
  · rw [Bytes.ofString, ← htext, hloop, List.nil_append, ← hfill]
    rfl

/-- No variable can be named so, but a value goes on as the name does. -/
theorem impossible_name_found :
    ¬ Bindings.IsName "A=B".toList ∧
      expand [(Bytes.ofString "A", Bytes.ofString "B=C")] "$\x7bA=B\x7d" = "C" := by
  constructor
  · intro h
    exact h.plain (by decide)
  · decide +kernel

end LspClient.Config
