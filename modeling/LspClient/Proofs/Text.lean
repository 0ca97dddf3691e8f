import LspClient.Decimal
import LspClient.Text.Ascii
import LspClient.Text.Blank

/-!
# Trimming and numerals

Trimming takes away the white space around a text and nothing else. The numeral
of a number is the usual one, it has no white space, and it denotes that number.
-/

namespace LspClient.Text

theorem trimStart_append_of_isBlank {bs : List Char} (hb : isBlank bs) (cs : List Char) :
    trimStart (bs ++ cs) = trimStart cs :=
  List.dropWhile_append_of_pos (List.all_eq_true.mp hb)

theorem trimEnd_append_of_isBlank {bs : List Char} (hb : isBlank bs) (cs : List Char) :
    trimEnd (cs ++ bs) = trimEnd cs := by
  have hr : ∀ c ∈ bs.reverse, isBlankChar c := by
    intro c hc
    exact List.all_eq_true.mp hb c (List.mem_reverse.mp hc)
  rw [trimEnd, List.reverse_append, List.dropWhile_append_of_pos hr, trimEnd]

theorem trimStart_of_isBlank {bs : List Char} (hb : isBlank bs) : trimStart bs = [] := by
  have h := trimStart_append_of_isBlank hb []
  rwa [List.append_nil] at h

theorem trim_padded {front cs back : List Char} (hf : isBlank front) (hb : isBlank back)
    (hhead : ∀ c ∈ cs.head?, isBlankChar c = false) (hlast : ∀ c ∈ cs.getLast?, isBlankChar c = false) :
    trim (front ++ cs ++ back) = cs := by
  rw [trim, List.append_assoc, trimStart_append_of_isBlank hf]
  cases cs with
  | nil =>
    rw [List.nil_append, trimStart_of_isBlank hb]
    rfl
  | cons c cs =>
    have hc : isBlankChar c = false := hhead c rfl
    have hstart : trimStart (c :: cs ++ back) = c :: cs ++ back := by simp [trimStart, hc]
    rw [hstart, trimEnd_append_of_isBlank hb]
    have hne : c :: cs ≠ [] := List.cons_ne_nil c cs
    have hl : isBlankChar ((c :: cs).getLast hne) = false :=
      hlast _ (List.getLast?_eq_some_getLast hne)
    rw [← List.dropLast_concat_getLast hne]
    simp [trimEnd, hl]

theorem trim_ne_nil {c : Char} (hc : isBlankChar c = false) (cs : List Char) : trim (c :: cs) ≠ [] := by
  have hstart : trimStart (c :: cs) = c :: cs := by simp [trimStart, hc]
  have hlast : c ∈ (cs.reverse ++ [c]).dropWhile isBlankChar := by
    rw [List.dropWhile_append]
    split
    · simp [hc]
    · exact List.mem_append_right _ (List.mem_singleton.mpr rfl)
  rw [trim, hstart, trimEnd, List.reverse_cons]
  intro hnil
  rw [List.reverse_eq_nil_iff] at hnil
  rw [hnil] at hlast
  cases hlast

theorem trim_append_left {bs : List Char} (hb : isBlank bs) (cs : List Char) : trim (bs ++ cs) = trim cs := by
  rw [trim, trimStart_append_of_isBlank hb, trim]

theorem trim_append_right {bs : List Char} (hb : isBlank bs) (cs : List Char) : trim (cs ++ bs) = trim cs := by
  rw [trim, trim, trimStart, List.dropWhile_append]
  split
  · rename_i hnil
    have hcs : trimStart cs = [] := List.isEmpty_iff.mp hnil
    have hbs : bs.dropWhile isBlankChar = [] := trimStart_of_isBlank hb
    rw [hbs, hcs]
  · exact trimEnd_append_of_isBlank hb _

/-- What trimming takes away is white space. -/
theorem exists_padding (cs : List Char) :
    ∃ front back, isBlank front ∧ isBlank back ∧ cs = front ++ trim cs ++ back := by
  refine ⟨cs.takeWhile isBlankChar, ((trimStart cs).reverse.takeWhile isBlankChar).reverse, ?_, ?_, ?_⟩
  · exact List.all_takeWhile
  · rw [isBlank, List.all_reverse]
    exact List.all_takeWhile
  · have hback : trimStart cs =
        trim cs ++ ((trimStart cs).reverse.takeWhile isBlankChar).reverse := by
      rw [trim, trimEnd, ← List.reverse_append, List.takeWhile_append_dropWhile, List.reverse_reverse]
    rw [List.append_assoc, ← hback]
    exact List.takeWhile_append_dropWhile.symm

theorem isBlank_append {as bs : List Char} : isBlank (as ++ bs) ↔ isBlank as ∧ isBlank bs := by
  rw [isBlank, List.all_append, Bool.and_eq_true]
  rfl

theorem trim_eq_nil_iff {cs : List Char} : trim cs = [] ↔ isBlank cs := by
  constructor
  · intro hnil
    obtain ⟨front, back, hfront, hback, hcs⟩ := exists_padding cs
    rw [hcs, hnil, List.append_nil]
    exact isBlank_append.mpr ⟨hfront, hback⟩
  · intro hblank
    rw [trim, trimStart_of_isBlank hblank]
    rfl

theorem not_mem_of_isBlank {c : Char} (hc : isBlankChar c = false) {cs : List Char} (hcs : isBlank cs) : c ∉ cs := by
  intro hmem
  have hblank : isBlankChar c = true := List.all_eq_true.mp hcs c hmem
  rw [hc] at hblank
  cases hblank

theorem mem_trim_iff {c : Char} (hc : isBlankChar c = false) (cs : List Char) : c ∈ trim cs ↔ c ∈ cs := by
  obtain ⟨front, back, hfront, hback, hcs⟩ := exists_padding cs
  have hf := not_mem_of_isBlank hc hfront
  have hb := not_mem_of_isBlank hc hback
  constructor
  · intro hmem
    rw [hcs]
    exact List.mem_append_left _ (List.mem_append_right _ hmem)
  · intro hmem
    rw [hcs] at hmem
    rcases List.mem_append.mp hmem with hmem | hmem
    · rcases List.mem_append.mp hmem with hmem | hmem
      · exact absurd hmem hf
      · exact hmem
    · exact absurd hmem hb

end LspClient.Text

namespace LspClient.Decimal

theorem digitChar_eq {d : Nat} (h : d < 10) : digitChar d = Nat.digitChar d := by
  decide +revert

theorem digitValue_digitChar {d : Nat} (h : d < 10) : digitValue (digitChar d) = d := by
  decide +revert

theorem digits_eq_toDigits (n : Nat) : digits n = Nat.toDigits 10 n := by
  induction n using Nat.strongRecOn with
  | ind n ih =>
    rw [digits]
    split
    · rename_i h
      rw [Nat.toDigits_of_lt_base h, digitChar_eq h]
    · rename_i h
      rw [Nat.toDigits_of_base_le (by omega) (by omega), ih _ (by omega), digitChar_eq (by omega)]

theorem digits_ne_nil (n : Nat) : digits n ≠ [] := by
  rw [digits_eq_toDigits]
  exact Nat.toDigits_ne_nil

theorem isDigit_of_mem_digits {n : Nat} {c : Char} (h : c ∈ digits n) : isDigit c := by
  rw [digits_eq_toDigits] at h
  have hd := Nat.isDigit_of_mem_toDigits (by omega) (by omega) h
  simpa [isDigit, Char.isDigit, UInt32.le_iff_toNat_le] using hd

theorem isBlankChar_of_isDigit {c : Char} (h : isDigit c) : Text.isBlankChar c = false := by
  simp only [isDigit, Bool.and_eq_true, decide_eq_true_eq] at h
  simp [Text.isBlankChar, Text.blankRanges]
  omega

theorem value_concat (cs : List Char) (c : Char) :
    value (cs ++ [c]) = 10 * value cs + digitValue c := by
  simp [value]

theorem value_digits (n : Nat) : value (digits n) = n := by
  induction n using Nat.strongRecOn with
  | ind n ih =>
    rw [digits]
    split
    · rename_i h
      simp [value, digitValue_digitChar h]
    · rename_i h
      rw [value_concat, ih _ (by omega), digitValue_digitChar (by omega)]
      omega

@[simp] theorem value?_digits (n : Nat) : value? (digits n) = some n := by
  have hall : (digits n).all isDigit := List.all_eq_true.mpr fun c => isDigit_of_mem_digits
  rw [value?, if_pos ⟨digits_ne_nil n, hall⟩, value_digits]

end LspClient.Decimal
