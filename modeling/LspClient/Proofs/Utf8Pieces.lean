import LspClient.Proofs.Utf8
import LspClient.Text.Blank

/-!
# Reading bytes loses nothing

Written out again, the pieces of a byte list are that list. So bytes are decoded to a text only if they are its byte
form, and bytes that show as white space are white space. The argument is about a character that has begun: whatever
bytes within the bounds complete it, it is the character with just these bytes.

The bytes of a text can be cut wherever no continuation byte follows, and both parts are then bytes of a text.
-/

namespace LspClient.Utf8

def Piece.bytes : Piece → Bytes
  | .char c => encodeChar c
  | .malformed bytes _ => bytes

/-- The bytes of a character that has begun. -/
def Mode.begun : Mode → Bytes
  | .fresh => []
  | .inside m => m.read.reverse

/-- Bytes that may follow, the first one between bounds of its own. -/
def Follows (low high : Nat) : Bytes → Prop
  | [] => True
  | b :: rest => (low ≤ b.toNat ∧ b.toNat ≤ high) ∧ ∀ c ∈ rest, 0x80 ≤ c.toNat ∧ c.toNat ≤ 0xBF

def gather (bits : Nat) (tail : Bytes) : Nat :=
  tail.foldl (fun n b => n * 0x40 + (b.toNat - 0x80)) bits

@[simp] theorem gather_nil (bits : Nat) : gather bits [] = bits := rfl

@[simp] theorem gather_cons (bits : Nat) (b : UInt8) (tail : Bytes) :
    gather bits (b :: tail) = gather (bits * 0x40 + (b.toNat - 0x80)) tail := by
  simp only [gather, List.foldl_cons]

/-- Every completion of what has begun is a character with these bytes. -/
structure Begun.Sound (m : Begun) : Prop where
  due : 1 ≤ m.due
  completes : ∀ tail : Bytes, tail.length = m.due → Follows m.low m.high tail →
    encodeChar (Char.ofNat (gather m.bits tail)) = m.read.reverse ++ tail

def Mode.Sound : Mode → Prop
  | .fresh => True
  | .inside m => m.Sound

theorem toNat_ofNat {n : Nat} (h : n < 0xD800 ∨ (0xDFFF < n ∧ n < 0x110000)) : (Char.ofNat n).toNat = n := by
  have hvalid : n.isValidChar := h
  rw [Char.ofNat, dif_pos hvalid]
  rfl

theorem toUInt8_eq {n : Nat} {b : UInt8} (h : n = b.toNat) : n.toUInt8 = b := by
  rw [h]
  exact UInt8.ofNat_toNat

section Forms
variable {a b c d : UInt8}

theorem encodeChar_one (ha : a.toNat < 0x80) : encodeChar (Char.ofNat a.toNat) = [a] := by
  have hn := toNat_ofNat (n := a.toNat) (by omega)
  simp only [encodeChar, hn, if_pos ha]
  rw [toUInt8_eq rfl]

theorem encodeChar_two (ha : 0xC2 ≤ a.toNat) (ha' : a.toNat < 0xE0)
    (hb : 0x80 ≤ b.toNat ∧ b.toNat ≤ 0xBF) :
    encodeChar (Char.ofNat ((a.toNat - 0xC0) * 0x40 + (b.toNat - 0x80))) = [a, b] := by
  have hn := toNat_ofNat (n := (a.toNat - 0xC0) * 0x40 + (b.toNat - 0x80)) (by omega)
  simp only [encodeChar, hn]
  rw [if_neg (by omega), if_pos (by omega), toUInt8_eq (b := a) (by omega), toUInt8_eq (b := b) (by omega)]

/-- The number must lie behind the shorter forms and outside the surrogates. -/
theorem encodeChar_three (ha : 0xE0 ≤ a.toNat) (ha' : a.toNat < 0xF0)
    (hb : 0x80 ≤ b.toNat ∧ b.toNat ≤ 0xBF) (hc : 0x80 ≤ c.toNat ∧ c.toNat ≤ 0xBF)
    (hlow : a.toNat = 0xE0 → 0xA0 ≤ b.toNat) (hgap : a.toNat = 0xED → b.toNat ≤ 0x9F) :
    encodeChar (Char.ofNat (((a.toNat - 0xE0) * 0x40 + (b.toNat - 0x80)) * 0x40 + (c.toNat - 0x80))) =
      [a, b, c] := by
  have hn := toNat_ofNat
    (n := ((a.toNat - 0xE0) * 0x40 + (b.toNat - 0x80)) * 0x40 + (c.toNat - 0x80)) (by omega)
  simp only [encodeChar, hn]
  rw [if_neg (by omega), if_neg (by omega), if_pos (by omega), toUInt8_eq (b := a) (by omega),
    toUInt8_eq (b := b) (by omega), toUInt8_eq (b := c) (by omega)]

theorem encodeChar_four (ha : 0xF0 ≤ a.toNat) (ha' : a.toNat ≤ 0xF4)
    (hb : 0x80 ≤ b.toNat ∧ b.toNat ≤ 0xBF) (hc : 0x80 ≤ c.toNat ∧ c.toNat ≤ 0xBF)
    (hd : 0x80 ≤ d.toNat ∧ d.toNat ≤ 0xBF)
    (hlow : a.toNat = 0xF0 → 0x90 ≤ b.toNat) (hhigh : a.toNat = 0xF4 → b.toNat ≤ 0x8F) :
    encodeChar (Char.ofNat ((((a.toNat - 0xF0) * 0x40 + (b.toNat - 0x80)) * 0x40 + (c.toNat - 0x80)) * 0x40 +
      (d.toNat - 0x80))) = [a, b, c, d] := by
  have hn := toNat_ofNat (n := (((a.toNat - 0xF0) * 0x40 + (b.toNat - 0x80)) * 0x40 + (c.toNat - 0x80)) * 0x40 +
    (d.toNat - 0x80)) (by omega)
  simp only [encodeChar, hn]
  rw [if_neg (by omega), if_neg (by omega), if_neg (by omega), toUInt8_eq (b := a) (by omega),
    toUInt8_eq (b := b) (by omega), toUInt8_eq (b := c) (by omega), toUInt8_eq (b := d) (by omega)]

end Forms

section Leads
variable {a : UInt8} {bits low high : Nat}

theorem sound_two (ha : 0xC2 ≤ a.toNat) (ha' : a.toNat < 0xE0) :
    Begun.Sound ⟨a.toNat - 0xC0, 1, 0x80, 0xBF, [a]⟩ := by
  refine ⟨Nat.le_refl 1, fun tail hlen hfollows => ?_⟩
  obtain ⟨b, rfl⟩ := List.length_eq_one_iff.mp hlen
  exact encodeChar_two ha ha' hfollows.1

theorem sound_three (ha : 0xE0 ≤ a.toNat) (ha' : a.toNat < 0xF0) (hbits : bits = a.toNat - 0xE0)
    (hlow : 0x80 ≤ low) (hhigh : high ≤ 0xBF) (hshort : a.toNat = 0xE0 → 0xA0 ≤ low)
    (hgap : a.toNat = 0xED → high ≤ 0x9F) : Begun.Sound ⟨bits, 2, low, high, [a]⟩ := by
  refine ⟨by simp, fun tail hlen hfollows => ?_⟩
  obtain ⟨b, tail, rfl⟩ := List.exists_cons_of_length_eq_add_one hlen
  obtain ⟨c, rfl⟩ := List.length_eq_one_iff.mp (Nat.succ.inj hlen)
  obtain ⟨hb, hrest⟩ := hfollows
  have hc := hrest c (List.mem_singleton.mpr rfl)
  simp only [gather_cons, gather_nil, hbits] at hb ⊢
  exact encodeChar_three ha ha' ⟨by omega, by omega⟩ hc (fun h => by have := hshort h; omega)
    (fun h => by have := hgap h; omega)

theorem sound_four (ha : 0xF0 ≤ a.toNat) (ha' : a.toNat ≤ 0xF4) (hbits : bits = a.toNat - 0xF0)
    (hlow : 0x80 ≤ low) (hhigh : high ≤ 0xBF) (hshort : a.toNat = 0xF0 → 0x90 ≤ low)
    (hlast : a.toNat = 0xF4 → high ≤ 0x8F) : Begun.Sound ⟨bits, 3, low, high, [a]⟩ := by
  refine ⟨by simp, fun tail hlen hfollows => ?_⟩
  obtain ⟨b, tail, rfl⟩ := List.exists_cons_of_length_eq_add_one hlen
  obtain ⟨c, tail, rfl⟩ := List.exists_cons_of_length_eq_add_one (Nat.succ.inj hlen)
  obtain ⟨d, rfl⟩ := List.length_eq_one_iff.mp (Nat.succ.inj (Nat.succ.inj hlen))
  obtain ⟨hb, hrest⟩ := hfollows
  have hc := hrest c List.mem_cons_self
  have hd := hrest d (List.mem_cons_of_mem _ (List.mem_singleton.mpr rfl))
  simp only [gather_cons, gather_nil, hbits] at hb ⊢
  exact encodeChar_four ha ha' ⟨by omega, by omega⟩ hc hd (fun h => by have := hshort h; omega)
    (fun h => by have := hlast h; omega)

end Leads

/-- A step keeps every byte: in the pieces that it completes or in the character begun. -/
def Keeps (begun : Bytes) (b : UInt8) (result : Mode × List Piece) : Prop :=
  result.1.Sound ∧ result.2.flatMap Piece.bytes ++ result.1.begun = begun ++ [b]

theorem lead_keeps (b : UInt8) : Keeps [] b (lead b) := by
  have hopen : ∀ {m : Begun}, m.Sound → m.read = [b] → Keeps [] b (.inside m, []) := by
    intro m hm hread
    exact ⟨hm, by simp [Mode.begun, hread]⟩
  have hbad : Keeps [] b (.fresh, [.malformed [b] false]) := ⟨trivial, rfl⟩
  unfold lead
  dsimp only
  split
  · rename_i h
    exact ⟨trivial, by simp [Piece.bytes, Mode.begun, encodeChar_one h]⟩
  split
  · exact hbad
  split
  · exact hopen (sound_two (by omega) (by omega)) rfl
  split
  · exact hopen (sound_three (by omega) (by omega) (by omega) (by omega) (by omega) (by omega) (by omega)) rfl
  split
  · exact hopen (sound_three (by omega) (by omega) (by omega) (by omega) (by omega) (by omega) (by omega)) rfl
  split
  · exact hopen (sound_three (by omega) (by omega) (by omega) (by omega) (by omega) (by omega) (by omega)) rfl
  split
  · exact hopen (sound_four (by omega) (by omega) (by omega) (by omega) (by omega) (by omega) (by omega)) rfl
  split
  · exact hopen (sound_four (by omega) (by omega) (by omega) (by omega) (by omega) (by omega) (by omega)) rfl
  split
  · exact hopen (sound_four (by omega) (by omega) (by omega) (by omega) (by omega) (by omega) (by omega)) rfl
  · exact hbad

theorem Begun.Sound.last {m : Begun} (h : m.Sound) (hdue : m.due ≤ 1) {b : UInt8}
    (hb : m.low ≤ b.toNat ∧ b.toNat ≤ m.high) :
    encodeChar (Char.ofNat (m.bits * 0x40 + (b.toNat - 0x80))) = m.read.reverse ++ [b] := by
  have hone : [b].length = m.due := by
    have := h.due
    simp only [List.length_singleton]
    omega
  exact h.completes [b] hone ⟨hb, by simp⟩

theorem Begun.Sound.inner {m : Begun} (h : m.Sound) (hdue : ¬ m.due ≤ 1) {b : UInt8}
    (hb : m.low ≤ b.toNat ∧ b.toNat ≤ m.high) :
    Begun.Sound ⟨m.bits * 0x40 + (b.toNat - 0x80), m.due - 1, 0x80, 0xBF, b :: m.read⟩ := by
  refine ⟨by simp only; omega, fun tail hlen hfollows => ?_⟩
  have hall : ∀ c ∈ tail, 0x80 ≤ c.toNat ∧ c.toNat ≤ 0xBF := by
    intro c hc
    cases tail with
    | nil => cases hc
    | cons d rest =>
      rcases List.mem_cons.mp hc with rfl | hc
      · exact hfollows.1
      · exact hfollows.2 c hc
  have hmore : (b :: tail).length = m.due := by
    simp only [List.length_cons] at hlen ⊢
    omega
  have hcompletes := h.completes (b :: tail) hmore ⟨hb, hall⟩
  rw [gather_cons] at hcompletes
  rw [List.reverse_cons, List.append_assoc]
  exact hcompletes

theorem step_keeps {mode : Mode} (h : mode.Sound) (b : UInt8) : Keeps mode.begun b (step mode b) := by
  cases mode with
  | fresh => exact lead_keeps b
  | inside m =>
    unfold step
    dsimp only
    split
    · rename_i hb
      split
      · rename_i hdue
        exact ⟨trivial, by simp [Piece.bytes, Mode.begun, h.last hdue hb]⟩
      · rename_i hdue
        exact ⟨h.inner hdue hb, by simp [Mode.begun]⟩
    · -- The byte cannot go on with the character, so it begins a piece of its own.
      obtain ⟨hsound, hbytes⟩ := lead_keeps b
      refine ⟨hsound, ?_⟩
      rw [List.flatMap_cons, List.append_assoc, hbytes]
      rfl

theorem finish_bytes (mode : Mode) : (finish mode).flatMap Piece.bytes = mode.begun := by
  cases mode <;> simp [finish, Piece.bytes, Mode.begun]

theorem unitsFrom_bytes {mode : Mode} (h : mode.Sound) (done : List Piece) (bytes : Bytes) :
    (unitsFrom mode done bytes).flatMap Piece.bytes =
      done.reverse.flatMap Piece.bytes ++ (mode.begun ++ bytes) := by
  induction bytes generalizing mode done with
  | nil => simp [unitsFrom, finish_bytes]
  | cons b rest ih =>
    obtain ⟨hsound, hbytes⟩ := step_keeps h b
    rw [unitsFrom, ih hsound, List.reverse_append, List.reverse_reverse, List.flatMap_append, List.append_assoc,
      ← List.append_assoc (List.flatMap _ (step mode b).2), hbytes, List.append_assoc]
    rfl

theorem units_bytes (bytes : Bytes) : (units bytes).flatMap Piece.bytes = bytes := by
  have hfresh : Mode.fresh.Sound := trivial
  exact unitsFrom_bytes hfresh [] bytes

theorem encode_eq_flatMap (cs : List Char) : encode cs = (cs.map Piece.char).flatMap Piece.bytes := by
  rw [List.flatMap_map]
  rfl

theorem eq_encode_of_units {bytes : Bytes} {cs : List Char} (h : units bytes = cs.map .char) :
    bytes = encode cs := by
  rw [encode_eq_flatMap, ← h, units_bytes]

theorem strict_eq_some {acc cs : List Char} {pieces : List Piece} (h : strict acc pieces = some cs) :
    ∃ ds, pieces = ds.map .char ∧ cs = acc.reverse ++ ds := by
  induction pieces generalizing acc with
  | nil =>
    rw [strict, Option.some_inj] at h
    exact ⟨[], rfl, by simp [h]⟩
  | cons p pieces ih =>
    cases p with
    | malformed bytes cut => cases h
    | char c =>
      obtain ⟨ds, rfl, rfl⟩ := ih h
      exact ⟨c :: ds, rfl, by simp⟩

theorem decode?_eq_some_iff {bytes : Bytes} {cs : List Char} : decode? bytes = some cs ↔ bytes = encode cs := by
  constructor
  · intro h
    obtain ⟨ds, hunits, rfl⟩ := strict_eq_some h
    exact eq_encode_of_units hunits
  · rintro rfl
    exact decode?_encode cs

theorem encode_injective {cs ds : List Char} (h : encode cs = encode ds) : cs = ds := by
  have hd := decode?_encode cs
  rw [h, decode?_encode] at hd
  exact (Option.some_inj.mp hd).symm

@[simp] theorem decodeLossy_encode (cs : List Char) : decodeLossy (encode cs) = cs := by
  simp [decodeLossy, Function.comp_def]

/-- Only white space shows as white space: an ill-formed run does not. -/
theorem isBlank_decodeLossy_iff (bytes : Bytes) :
    Text.isBlank (decodeLossy bytes) ↔ ∃ cs, Text.isBlank cs ∧ bytes = encode cs := by
  constructor
  · intro h
    have hchars : ∀ p ∈ units bytes, ∃ c, p = .char c := by
      intro p hp
      cases p with
      | char c => exact ⟨c, rfl⟩
      | malformed run cut =>
        have hblank : Text.isBlankChar (Char.ofNat 0xFFFD) = true :=
          List.all_eq_true.mp h _ (List.mem_map.mpr ⟨_, hp, rfl⟩)
        exact absurd hblank (by decide)
    obtain ⟨cs, hcs⟩ : ∃ cs : List Char, units bytes = cs.map .char := by
      generalize units bytes = pieces at hchars
      induction pieces with
      | nil => exact ⟨[], rfl⟩
      | cons p pieces ih =>
        obtain ⟨c, rfl⟩ := hchars p List.mem_cons_self
        obtain ⟨cs, rfl⟩ := ih fun q hq => hchars q (List.mem_cons_of_mem _ hq)
        exact ⟨c :: cs, rfl⟩
    refine ⟨cs, ?_, eq_encode_of_units hcs⟩
    rwa [eq_encode_of_units hcs, decodeLossy_encode] at h
  · rintro ⟨cs, hcs, rfl⟩
    rwa [decodeLossy_encode]

/-- Whether a byte can only go on with a character. -/
def isContinuation (b : UInt8) : Bool :=
  0x80 ≤ b.toNat && b.toNat < 0xC0

/-- Only the first byte of a byte form is no continuation. -/
theorem encodeChar_eq_cons (c : Char) :
    ∃ b rest, encodeChar c = b :: rest ∧ isContinuation b = false ∧ ∀ x ∈ rest, isContinuation x = true := by
  have hgap := toNat_gap c
  have hlead : ∀ {n : Nat}, n < 0x80 ∨ 0xC0 ≤ n → n < 256 → isContinuation n.toUInt8 = false := by
    intro n hn hbyte
    simp only [isContinuation, toNat_byte hbyte, Bool.and_eq_false_iff, decide_eq_false_iff_not]
    omega
  have hgoes : ∀ k, k < 0x40 → isContinuation (0x80 + k).toUInt8 = true := by
    intro k hk
    have hbyte : 0x80 + k < 256 := by omega
    simp only [isContinuation, toNat_byte hbyte, Bool.and_eq_true_iff, decide_eq_true_iff]
    omega
  have hmod : ∀ k, isContinuation (0x80 + k % 0x40).toUInt8 = true := fun k => hgoes _ (Nat.mod_lt _ (by decide))
  unfold encodeChar
  dsimp only
  split
  · exact ⟨_, _, rfl, hlead (by omega) (by omega), nofun⟩
  split
  · refine ⟨_, _, rfl, hlead (by omega) (by omega), ?_⟩
    simp only [List.forall_mem_cons]
    exact ⟨hmod _, nofun⟩
  split
  · refine ⟨_, _, rfl, hlead (by omega) (by omega), ?_⟩
    simp only [List.forall_mem_cons]
    exact ⟨hmod _, hmod _, nofun⟩
  · refine ⟨_, _, rfl, hlead (by omega) (by omega), ?_⟩
    simp only [List.forall_mem_cons]
    exact ⟨hmod _, hmod _, hmod _, nofun⟩

theorem length_le_length_encode (cs : List Char) : cs.length ≤ (encode cs).length := by
  induction cs with
  | nil => exact Nat.le_refl 0
  | cons c cs ih =>
    obtain ⟨x, tail, hc, -⟩ := encodeChar_eq_cons c
    rw [encode_cons, hc, List.length_append, List.length_cons, List.length_cons]
    omega

theorem unitsFrom_done (mode : Mode) (done : List Piece) (bytes : Bytes) :
    unitsFrom mode done bytes = done.reverse ++ unitsFrom mode [] bytes := by
  induction bytes generalizing mode done with
  | nil => simp [unitsFrom]
  | cons b rest ih =>
    rw [unitsFrom, unitsFrom]
    dsimp only
    rw [ih _ ((step mode b).2.reverse ++ done), ih _ ((step mode b).2.reverse ++ [])]
    simp

theorem units_encodeChar_append (c : Char) (bytes : Bytes) :
    units (encodeChar c ++ bytes) = .char c :: units bytes := by
  rw [units, unitsFrom_encodeChar, unitsFrom_done]
  rfl

theorem encodeChar_append_inj {c d : Char} {x y : Bytes} (h : encodeChar c ++ x = encodeChar d ++ y) :
    c = d ∧ x = y := by
  have hunits := congrArg units h
  rw [units_encodeChar_append, units_encodeChar_append] at hunits
  obtain ⟨hchar, -⟩ := List.cons.inj hunits
  cases hchar
  exact ⟨rfl, List.append_cancel_left h⟩

theorem exists_of_encode_eq_append {cs pattern : List Char} {b : Bytes} (h : encode cs = encode pattern ++ b) :
    ∃ back, cs = pattern ++ back ∧ b = encode back := by
  induction pattern generalizing cs with
  | nil => exact ⟨cs, rfl, h.symm⟩
  | cons p pattern ih =>
    rw [encode_cons, List.append_assoc] at h
    cases cs with
    | nil =>
      obtain ⟨x, rest, hp, -⟩ := encodeChar_eq_cons p
      rw [hp] at h
      cases h
    | cons c cs =>
      rw [encode_cons] at h
      obtain ⟨rfl, hrest⟩ := encodeChar_append_inj h
      obtain ⟨back, rfl, hback⟩ := ih hrest
      exact ⟨back, rfl, hback⟩

/-- The induction is on the characters; a cut inside the first of them would have a continuation behind it. -/
theorem exists_of_encode_split {cs : List Char} {a b : Bytes} (h : encode cs = a ++ b)
    (hb : ∀ x ∈ b.head?, isContinuation x = false) :
    ∃ front back, cs = front ++ back ∧ a = encode front ∧ b = encode back := by
  induction cs generalizing a with
  | nil =>
    obtain ⟨rfl, rfl⟩ := List.append_eq_nil_iff.mp h.symm
    exact ⟨[], [], rfl, rfl, rfl⟩
  | cons c cs ih =>
    cases a with
    | nil => exact ⟨[], c :: cs, rfl, rfl, h.symm⟩
    | cons x a =>
      obtain ⟨y, rest, hc, -, hrest⟩ := encodeChar_eq_cons c
      have hencode := encode_cons c cs
      rw [hencode, hc, List.cons_append, List.cons_append] at h
      obtain ⟨rfl, htail⟩ := List.cons.inj h
      have hbehind : ∃ k, a = rest ++ k ∧ encode cs = k ++ b := by
        rcases List.append_eq_append_iff.mp htail with ⟨k, hk, hcs⟩ | ⟨k, hk, hbk⟩
        · exact ⟨k, hk, hcs⟩
        · cases k with
          | nil => exact ⟨[], by simpa using hk.symm, by simpa using hbk.symm⟩
          | cons z k =>
            have hz := hb z (by simp [hbk])
            rw [hrest z (by simp [hk])] at hz
            cases hz
      obtain ⟨k, rfl, hk⟩ := hbehind
      obtain ⟨front, back, rfl, rfl, rfl⟩ := ih hk
      refine ⟨c :: front, back, rfl, ?_, rfl⟩
      rw [encode_cons, hc, List.cons_append]

theorem exists_of_encode_infix {cs pattern : List Char} {a b : Bytes} (hpattern : pattern ≠ [])
    (h : encode cs = a ++ encode pattern ++ b) :
    ∃ front back, cs = front ++ pattern ++ back ∧ a = encode front ∧ b = encode back := by
  obtain ⟨p, rest, rfl⟩ := List.exists_cons_of_ne_nil hpattern
  obtain ⟨x, tail, hp, hx, -⟩ := encodeChar_eq_cons p
  rw [List.append_assoc] at h
  have hhead : ∀ y ∈ (encode (p :: rest) ++ b).head?, isContinuation y = false := by
    intro y hy
    rw [encode_cons, hp] at hy
    cases hy
    exact hx
  obtain ⟨front, behind, rfl, hfront, hbehind⟩ := exists_of_encode_split h hhead
  obtain ⟨back, rfl, hback⟩ := exists_of_encode_eq_append hbehind.symm
  exact ⟨front, back, by simp, hfront, hback⟩

theorem mem_encode_iff {b : UInt8} {c : Char} (hb : b.toNat < 0x80) (hc : encodeChar c = [b]) {cs : List Char} :
    b ∈ encode cs ↔ c ∈ cs := by
  have hmem : b ∈ encodeChar c := hc ▸ List.mem_singleton_self b
  constructor
  · intro h
    obtain ⟨d, hd, hbd⟩ := List.mem_flatMap.mp h
    have hnat : d.toNat = c.toNat :=
      (toNat_eq_of_mem_encodeChar hbd hb).trans (toNat_eq_of_mem_encodeChar hmem hb).symm
    rwa [← Char.ofNat_toNat d, hnat, Char.ofNat_toNat] at hd
  · intro h
    exact List.mem_flatMap.mpr ⟨c, h, hmem⟩

end LspClient.Utf8
