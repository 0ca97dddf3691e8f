import LspClient.Proofs.Utf8Pieces

/-!
# Byte offsets in text

Looking for a text among the bytes of another finds it where it is among the characters, and a slice between two places
where the bytes can be cut is the text between them.
-/

namespace LspClient.Bytes

/-- Where the pattern begins first. -/
def offset? (pattern : Bytes) : Bytes → Option Nat
  | [] => if pattern.isPrefixOf [] then some 0 else none
  | b :: rest => if pattern.isPrefixOf (b :: rest) then some 0 else (offset? pattern rest).map (· + 1)

theorem offset?_of_prefix {pattern bytes : Bytes} (h : pattern <+: bytes) : offset? pattern bytes = some 0 := by
  cases bytes with
  | nil => rw [offset?, if_pos (List.isPrefixOf_iff_prefix.mpr h)]
  | cons b rest => rw [offset?, if_pos (List.isPrefixOf_iff_prefix.mpr h)]

theorem offset?_cons {pattern rest : Bytes} {b : UInt8} (h : ¬ pattern <+: b :: rest) :
    offset? pattern (b :: rest) = (offset? pattern rest).map (· + 1) := by
  rw [offset?, if_neg fun hbegin => h (List.isPrefixOf_iff_prefix.mp hbegin)]

theorem offset?_eq_none {pattern bytes : Bytes} (h : ¬ pattern <:+: bytes) : offset? pattern bytes = none := by
  induction bytes with
  | nil => rw [offset?, if_neg fun hbegin => h (List.isPrefixOf_iff_prefix.mp hbegin).isInfix]
  | cons b rest ih =>
    have hrest : ¬ pattern <:+: rest := fun hinside => h (List.infix_cons_iff.mpr (.inr hinside))
    rw [offset?_cons fun hbegin => h hbegin.isInfix, ih hrest, Option.map_none]

theorem offset?_first {pattern a b : Bytes}
    (h : ∀ a' b', a ++ pattern ++ b = a' ++ pattern ++ b' → a.length ≤ a'.length) :
    offset? pattern (a ++ pattern ++ b) = some a.length := by
  induction a with
  | nil => exact offset?_of_prefix (List.prefix_append pattern b)
  | cons x a ih =>
    have hlater : ¬ pattern <+: x :: (a ++ pattern ++ b) := by
      rintro ⟨b', hb'⟩
      have hle := h [] b' hb'.symm
      simp at hle
    have hrest : offset? pattern (a ++ pattern ++ b) = some a.length := by
      apply ih
      intro a' b' heq
      have hle := h (x :: a') b' (congrArg (x :: ·) heq)
      simpa using hle
    rw [List.cons_append, List.cons_append, offset?_cons hlater, hrest]
    rfl

section Text
variable {pattern : List Char} (hpattern : pattern ≠ [])
include hpattern

theorem offset?_encode_eq_none {cs : List Char} (h : ¬ pattern <:+: cs) :
    offset? (Utf8.encode pattern) (Utf8.encode cs) = none := by
  apply offset?_eq_none
  rintro ⟨a, b, hab⟩
  obtain ⟨front, back, hcs, -, -⟩ := Utf8.exists_of_encode_infix hpattern hab.symm
  exact h ⟨front, back, hcs.symm⟩

theorem offset?_encode_first {front back : List Char}
    (h : ∀ front' back', front ++ pattern ++ back = front' ++ pattern ++ back' → front.length ≤ front'.length) :
    offset? (Utf8.encode pattern) (Utf8.encode (front ++ pattern ++ back)) = some (Utf8.encode front).length := by
  rw [Utf8.encode_append, Utf8.encode_append]
  apply offset?_first
  intro a' b' heq
  rw [← Utf8.encode_append, ← Utf8.encode_append] at heq
  obtain ⟨front', back', hcs, rfl, -⟩ := Utf8.exists_of_encode_infix hpattern heq
  have hfront : front <+: front ++ pattern ++ back := by
    rw [List.append_assoc]
    exact List.prefix_append _ _
  have hfront' : front' <+: front ++ pattern ++ back := by
    rw [hcs, List.append_assoc]
    exact List.prefix_append _ _
  have hbegin : front <+: front' := List.prefix_of_prefix_length_le hfront hfront' (h front' back' hcs)
  obtain ⟨k, rfl⟩ := hbegin
  rw [Utf8.encode_append, List.length_append]
  exact Nat.le_add_right _ _

end Text

/-- Whether a text can be cut at an offset. -/
def isBoundary (bytes : Bytes) (i : Nat) : Bool :=
  i = 0 ||
    match bytes[i]? with
    | none => i = bytes.length
    | some b => !Utf8.isContinuation b

/-- The bytes between two offsets; `none` if one of them is out of bounds or inside a character. -/
def slice? (bytes : Bytes) (i j : Nat) : Option Bytes :=
  if i ≤ j && isBoundary bytes i && isBoundary bytes j then some ((bytes.take j).drop i) else none

theorem isBoundary_encode (front back : List Char) :
    isBoundary (Utf8.encode (front ++ back)) (Utf8.encode front).length = true := by
  rw [Utf8.encode_append, isBoundary, Bool.or_eq_true]
  right
  cases back with
  | nil => simp [Utf8.encode]
  | cons c back =>
    obtain ⟨b, rest, hc, hb, -⟩ := Utf8.encodeChar_eq_cons c
    simp [Utf8.encode_cons, hc, hb]

theorem slice?_encode {bytes : Bytes} {i j : Nat} (a m z : List Char) (hbytes : bytes = Utf8.encode (a ++ m ++ z))
    (hi : i = (Utf8.encode a).length) (hj : j = i + (Utf8.encode m).length) :
    slice? bytes i j = some (Utf8.encode m) := by
  have hend : j = (Utf8.encode (a ++ m)).length := by rw [hj, hi, Utf8.encode_append, List.length_append]
  have hle : i ≤ j := by omega
  have hfirst : isBoundary bytes i = true := by
    rw [hbytes, hi, List.append_assoc]
    exact isBoundary_encode a (m ++ z)
  have hlast : isBoundary bytes j = true := by
    rw [hbytes, hend]
    exact isBoundary_encode (a ++ m) z
  have hcut : (bytes.take j).drop i = Utf8.encode m := by
    rw [hbytes, hend, hi, Utf8.encode_append (a ++ m) z, List.take_left, Utf8.encode_append, List.drop_left]
  rw [slice?, hfirst, hlast, decide_eq_true hle, hcut]
  rfl

theorem le_of_isBoundary {bytes : Bytes} {i : Nat} (h : isBoundary bytes i = true) : i ≤ bytes.length := by
  rw [isBoundary, Bool.or_eq_true] at h
  rcases h with h | h
  · rw [of_decide_eq_true h]
    exact Nat.zero_le _
  · split at h
    · exact Nat.le_of_eq (of_decide_eq_true h)
    · rename_i b hb
      obtain ⟨hlt, -⟩ := List.getElem?_eq_some_iff.mp hb
      exact Nat.le_of_lt hlt

theorem length_of_slice? {bytes s : Bytes} {i j : Nat} (h : slice? bytes i j = some s) :
    i + s.length ≤ bytes.length := by
  unfold slice? at h
  split at h
  · rename_i hbounds
    simp only [Bool.and_eq_true] at hbounds
    have hi := le_of_isBoundary hbounds.1.2
    cases h
    rw [List.length_drop, List.length_take]
    omega
  · cases h

end LspClient.Bytes
