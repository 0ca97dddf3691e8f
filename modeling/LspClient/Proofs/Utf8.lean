import LspClient.Text.Utf8

/-!
# Decoding undoes encoding

`units` reads bytes one at a time, so the byte form of a character is followed byte by byte: a first byte that
says how many are due, and then bytes of six bits each. From between two characters the byte form of a
character list always leads to just those characters, whatever follows it. The bytes of a character above the
seven-bit range are all above that range, so a line ends in the bytes where it ends in the text.
-/

namespace LspClient.Utf8

theorem toNat_byte {n : Nat} (h : n < 256) : n.toUInt8.toNat = n := by
  simpa using h

theorem toNat_gap (c : Char) : c.toNat < 0xD800 ∨ (0xDFFF < c.toNat ∧ c.toNat < 0x110000) :=
  c.valid

section Tails
variable (m : Begun) {k : Nat} (done : List Piece) (rest : Bytes)

theorem unitsFrom_inner (hk : k < 0x40) (hlow : m.low ≤ 0x80 + k) (hhigh : 0x80 + k ≤ m.high)
    (hdue : 1 < m.due) :
    unitsFrom (.inside m) done ((0x80 + k).toUInt8 :: rest) =
      unitsFrom (.inside ⟨m.bits * 0x40 + k, m.due - 1, 0x80, 0xBF, (0x80 + k).toUInt8 :: m.read⟩)
        done rest := by
  have hb := toNat_byte (show 0x80 + k < 256 by omega)
  simp only [unitsFrom, step, hb, if_pos (And.intro hlow hhigh), if_neg (Nat.not_le.mpr hdue),
    Nat.add_sub_cancel_left]
  rfl

theorem unitsFrom_last (hk : k < 0x40) (hlow : m.low ≤ 0x80 + k) (hhigh : 0x80 + k ≤ m.high)
    (hdue : m.due ≤ 1) :
    unitsFrom (.inside m) done ((0x80 + k).toUInt8 :: rest) =
      unitsFrom .fresh (.char (Char.ofNat (m.bits * 0x40 + k)) :: done) rest := by
  have hb := toNat_byte (show 0x80 + k < 256 by omega)
  simp only [unitsFrom, step, hb, if_pos (And.intro hlow hhigh), if_pos hdue,
    Nat.add_sub_cancel_left]
  rfl

end Tails

theorem lead_one {n : Nat} (h : n < 0x80) :
    lead n.toUInt8 = (.fresh, [.char (Char.ofNat n)]) := by
  have hb := toNat_byte (show n < 256 by omega)
  simp only [lead, hb, if_pos h]

theorem lead_two {n : Nat} (hlow : 0x80 ≤ n) (hhigh : n < 0x800) :
    lead (0xC0 + n / 0x40).toUInt8 =
      (.inside ⟨n / 0x40, 1, 0x80, 0xBF, [(0xC0 + n / 0x40).toUInt8]⟩, []) := by
  have hb := toNat_byte (show 0xC0 + n / 0x40 < 256 by omega)
  simp only [lead, hb]
  rw [if_neg (by omega), if_neg (by omega), if_pos (by omega), Nat.add_sub_cancel_left]

/-- The bounds on the second byte leave out the short forms and the surrogates, and nothing else. -/
theorem lead_three {n : Nat} (hlow : 0x800 ≤ n) (hhigh : n < 0x10000)
    (hgap : n < 0xD800 ∨ 0xDFFF < n) :
    ∃ low high, low ≤ 0x80 + n / 0x40 % 0x40 ∧ 0x80 + n / 0x40 % 0x40 ≤ high ∧
      lead (0xE0 + n / 0x1000).toUInt8 =
        (.inside ⟨n / 0x1000, 2, low, high, [(0xE0 + n / 0x1000).toUInt8]⟩, []) := by
  have hb := toNat_byte (show 0xE0 + n / 0x1000 < 256 by omega)
  simp only [lead, hb]
  rw [if_neg (by omega), if_neg (by omega), if_neg (by omega)]
  by_cases h0 : 0xE0 + n / 0x1000 = 0xE0
  · rw [if_pos h0, show n / 0x1000 = 0 by omega]
    exact ⟨_, _, by omega, by omega, rfl⟩
  · rw [if_neg h0]
    by_cases hd : 0xE0 + n / 0x1000 = 0xED
    · rw [if_pos hd, show n / 0x1000 = 0xD by omega]
      exact ⟨_, _, by omega, by omega, rfl⟩
    · rw [if_neg hd, if_pos (by omega), Nat.add_sub_cancel_left]
      exact ⟨_, _, by omega, by omega, rfl⟩

theorem lead_four {n : Nat} (hlow : 0x10000 ≤ n) (hhigh : n < 0x110000) :
    ∃ low high, low ≤ 0x80 + n / 0x1000 % 0x40 ∧ 0x80 + n / 0x1000 % 0x40 ≤ high ∧
      lead (0xF0 + n / 0x40000).toUInt8 =
        (.inside ⟨n / 0x40000, 3, low, high, [(0xF0 + n / 0x40000).toUInt8]⟩, []) := by
  have hb := toNat_byte (show 0xF0 + n / 0x40000 < 256 by omega)
  simp only [lead, hb]
  rw [if_neg (by omega), if_neg (by omega), if_neg (by omega), if_neg (by omega), if_neg (by omega),
    if_neg (by omega)]
  by_cases h0 : 0xF0 + n / 0x40000 = 0xF0
  · rw [if_pos h0, show n / 0x40000 = 0 by omega]
    exact ⟨_, _, by omega, by omega, rfl⟩
  · rw [if_neg h0]
    by_cases h4 : 0xF0 + n / 0x40000 < 0xF4
    · rw [if_pos h4, Nat.add_sub_cancel_left]
      exact ⟨_, _, by omega, by omega, rfl⟩
    · rw [if_neg h4, if_pos (by omega), show n / 0x40000 = 4 by omega]
      exact ⟨_, _, by omega, by omega, rfl⟩

theorem unitsFrom_encodeChar (c : Char) (done : List Piece) (rest : Bytes) :
    unitsFrom .fresh done (encodeChar c ++ rest) = unitsFrom .fresh (.char c :: done) rest := by
  have hgap := toNat_gap c
  unfold encodeChar
  simp only
  split
  · simp only [List.cons_append, List.nil_append]
    rw [unitsFrom, step, lead_one ‹_›, Char.ofNat_toNat]
    rfl
  split
  · simp only [List.cons_append, List.nil_append]
    rw [unitsFrom, step, lead_two (by omega) (by omega)]
    simp only [List.reverse_nil, List.nil_append]
    rw [unitsFrom_last _ _ _ (by omega) (by simp) (by simp; omega) (by simp)]
    rw [show c.toNat / 0x40 * 0x40 + c.toNat % 0x40 = c.toNat by omega, Char.ofNat_toNat]
  split
  · obtain ⟨low, high, hl, hh, hlead⟩ :=
      lead_three (n := c.toNat) (by omega) (by omega) (by omega)
    simp only [List.cons_append, List.nil_append]
    rw [unitsFrom, step, hlead]
    simp only [List.reverse_nil, List.nil_append]
    rw [unitsFrom_inner _ _ _ (by omega) hl hh (by simp),
      unitsFrom_last _ _ _ (by omega) (by simp) (by simp; omega) (by simp)]
    simp only
    rw [show (c.toNat / 0x1000 * 0x40 + c.toNat / 0x40 % 0x40) * 0x40 + c.toNat % 0x40 = c.toNat by
      omega, Char.ofNat_toNat]
  · obtain ⟨low, high, hl, hh, hlead⟩ := lead_four (n := c.toNat) (by omega) (by omega)
    simp only [List.cons_append, List.nil_append]
    rw [unitsFrom, step, hlead]
    simp only [List.reverse_nil, List.nil_append]
    rw [unitsFrom_inner _ _ _ (by omega) hl hh (by simp),
      unitsFrom_inner _ _ _ (by omega) (by simp) (by simp; omega) (by simp),
      unitsFrom_last _ _ _ (by omega) (by simp) (by simp; omega) (by simp)]
    simp only
    rw [show ((c.toNat / 0x40000 * 0x40 + c.toNat / 0x1000 % 0x40) * 0x40 + c.toNat / 0x40 % 0x40) * 0x40 +
      c.toNat % 0x40 = c.toNat by omega, Char.ofNat_toNat]

@[simp] theorem encode_append (xs ys : List Char) : encode (xs ++ ys) = encode xs ++ encode ys := by
  simp [encode]

theorem encode_cons (c : Char) (cs : List Char) : encode (c :: cs) = encodeChar c ++ encode cs := by
  simp [encode]

theorem unitsFrom_encode (cs : List Char) (done : List Piece) (rest : Bytes) :
    unitsFrom .fresh done (encode cs ++ rest) =
      unitsFrom .fresh ((cs.map .char).reverse ++ done) rest := by
  induction cs generalizing done with
  | nil => rfl
  | cons c cs ih =>
    rw [encode_cons, List.append_assoc, unitsFrom_encodeChar, ih]
    simp

@[simp] theorem units_encode (cs : List Char) : units (encode cs) = cs.map .char := by
  have h := unitsFrom_encode cs [] []
  simpa [units, unitsFrom, finish] using h

theorem strict_map_char (acc cs : List Char) :
    strict acc (cs.map .char) = some (acc.reverse ++ cs) := by
  induction cs generalizing acc with
  | nil => simp [strict]
  | cons c cs ih => simp [strict, ih]

@[simp] theorem decode?_encode (cs : List Char) : decode? (encode cs) = some cs := by
  simp [decode?, strict_map_char]

/-- A byte of the seven-bit range stands only for the character of its own number. -/
theorem toNat_eq_of_mem_encodeChar {c : Char} {b : UInt8} (hb : b ∈ encodeChar c)
    (hlow : b.toNat < 0x80) : c.toNat = b.toNat := by
  have hgap := toNat_gap c
  unfold encodeChar at hb
  simp only at hb
  split at hb
  · rw [List.mem_singleton.mp hb, toNat_byte (by omega)]
  · exfalso
    have high : ∀ {n : Nat}, 0x80 ≤ n → n < 256 → b ≠ n.toUInt8 := by
      intro n h0 h1 heq
      rw [heq, toNat_byte h1] at hlow
      omega
    split at hb
    · simp only [List.mem_cons, List.not_mem_nil, or_false] at hb
      rcases hb with hb | hb <;> exact high (by omega) (by omega) hb
    · split at hb
      · simp only [List.mem_cons, List.not_mem_nil, or_false] at hb
        rcases hb with hb | hb | hb <;> exact high (by omega) (by omega) hb
      · simp only [List.mem_cons, List.not_mem_nil, or_false] at hb
        rcases hb with hb | hb | hb | hb <;> exact high (by omega) (by omega) hb

theorem not_mem_encode {cs : List Char} {b : UInt8} (hlow : b.toNat < 0x80)
    (hcs : ∀ c ∈ cs, c.toNat ≠ b.toNat) : b ∉ encode cs := by
  intro hb
  obtain ⟨c, hc, hbc⟩ := List.mem_flatMap.mp hb
  exact hcs c hc (toNat_eq_of_mem_encodeChar hbc hlow)

theorem encode_of_ascii {cs : List Char} (h : ∀ c ∈ cs, c.toNat < 0x80) :
    encode cs = cs.map fun c => c.toNat.toUInt8 := by
  induction cs with
  | nil => rfl
  | cons c cs ih =>
    have hc : c.toNat < 0x80 := h c List.mem_cons_self
    have hcs : ∀ c ∈ cs, c.toNat < 0x80 := fun c hc => h c (List.mem_cons_of_mem _ hc)
    rw [encode_cons, ih hcs, encodeChar, if_pos hc]
    rfl

theorem take_encode {cs : List Char} (h : ∀ c ∈ cs, c.toNat < 0x80) (k : Nat) :
    (encode cs).take k = encode (cs.take k) := by
  have hk : ∀ c ∈ cs.take k, c.toNat < 0x80 := fun c hc => h c (List.mem_of_mem_take hc)
  rw [encode_of_ascii h, encode_of_ascii hk, List.map_take]

end LspClient.Utf8
