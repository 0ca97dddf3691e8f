import LspClient.Decimal

/-!
# Double-precision magnitudes

A magnitude is `mantissa · 2 ^ exponent` with at most 53 bits of mantissa. `nearest` rounds a quotient of
natural numbers to the closest magnitude, a half to the even mantissa, and multiplication and division
are the exact results rounded. `shortest` finds the fewest decimal digits that lie closer to a magnitude
than to its neighbours.
-/

namespace LspClient.Json

/-- A finite number that is not negative, as the double format holds it. -/
structure Binary64 where
  mantissa : Nat
  exponent : Int
deriving DecidableEq, Repr

namespace Binary64

def minExponent : Int := -1074

/-- The greatest exponent of a mantissa with all its 53 bits. -/
def maxExponent : Int := 971

def zero : Binary64 := ⟨0, minExponent⟩

/-- The quotient of two numbers rounded to the nearest integer, a half to the even one. -/
def roundDiv (num den : Nat) : Nat :=
  let q := num / den
  let r := num % den
  if 2 * r < den then q
  else if den < 2 * r then q + 1
  else if q % 2 = 0 then q else q + 1

/-- The factors by which a numerator and a denominator grow to carry `2 ^ e`. -/
def scale2 (e : Int) : Nat × Nat :=
  if 0 ≤ e then (Nat.pow 2 e.toNat, 1) else (1, Nat.pow 2 (-e).toNat)

/-- The magnitude nearest to `num / den`; `none` if it is beyond the format. -/
def nearest (num den : Nat) : Option Binary64 :=
  if num = 0 then some zero
  else
    let guess : Int := (num.log2 : Int) - (den.log2 : Int)
    let (a, b) := scale2 guess
    let top := if den * a ≤ num * b then guess else guess - 1
    let e := max (top - 52) minExponent
    let (up, down) := scale2 (-e)
    let m := roundDiv (num * up) (den * down)
    let (m, e) := if m = 0x20000000000000 then (0x10000000000000, e + 1) else (m, e)
    if maxExponent < e then none else some ⟨m, e⟩

def ratio (x : Binary64) : Nat × Nat :=
  let (up, down) := scale2 x.exponent
  (x.mantissa * up, down)

def mul (x y : Binary64) : Option Binary64 :=
  let (a, b) := x.ratio
  let (c, d) := y.ratio
  nearest (a * c) (b * d)

/-- The rounded quotient; the divisor is not zero where this is used. -/
def div (x y : Binary64) : Option Binary64 :=
  let (a, b) := x.ratio
  let (c, d) := y.ratio
  nearest (a * d) (b * c)

/-- A decimal `0.d₁d₂… · 10 ^ point`, its digits as one number. -/
structure Digits where
  digits : Nat
  count : Nat
  point : Int

/-- The factors by which a numerator and a denominator grow to carry `10 ^ e`. -/
def scale10 (e : Int) : Nat × Nat :=
  if 0 ≤ e then (Nat.pow 10 e.toNat, 1) else (1, Nat.pow 10 (-e).toNat)

/-- The magnitude nearest to a row of digits times `10 ^ e`; `none` if it is beyond the format. Decimals that are
out of reach by their number of places are not computed. -/
def ofDecimal (digits : List Char) (e : Int) : Option Binary64 :=
  let digits := digits.dropWhile (· = '0')
  let places := (digits.length : Int) + e
  if digits = [] ∨ places < -400 then some zero
  else if 400 < places then none
  else
    let (up, down) := scale10 e
    nearest (Decimal.value digits * up) down

/-- The number of decimal places before the point of `num / den`: the `p` with
`10 ^ (p - 1) ≤ num / den < 10 ^ p`, found from a guess that may be one too low or too high. -/
def decimalPoint (num den : Nat) : Int :=
  let guess : Int := ((Decimal.digits num).length : Int) - ((Decimal.digits den).length : Int)
  let reaches (p : Int) : Bool :=
    let (up, down) := scale10 p
    den * up ≤ num * down
  if reaches (guess + 1) then guess + 2 else if reaches guess then guess + 1 else guess

/-- Of the two multiples of `10 ^ (point - count)` around the magnitude, the one that still rounds to it:
the nearer if both do, and the even one if they are equally near. -/
def candidate (x : Binary64) (point : Int) (count : Nat) : Option Nat :=
  let e := x.exponent - 2
  let (up, down) := scale2 e
  let (gridUp, gridDown) := scale10 (point - count)
  -- In units where a quarter of the last mantissa bit is `unit` and a grid step is `grid`.
  let unit := up * gridDown
  let grid := gridUp * down
  let value := 4 * x.mantissa * unit
  let below := if x.mantissa = 0x10000000000000 ∧ x.exponent ≠ minExponent then unit else 2 * unit
  let low := value - below
  let high := value + 2 * unit
  let even := x.mantissa % 2 = 0
  let inside (k : Nat) : Bool :=
    if even then low ≤ k * grid && k * grid ≤ high else low < k * grid && k * grid < high
  let k := value / grid
  let r := value % grid
  match inside k, inside (k + 1) with
  | true, true =>
    if 2 * r < grid then some k
    else if grid < 2 * r then some (k + 1)
    else if k % 2 = 0 then some k else some (k + 1)
  | true, false => some k
  | false, true => some (k + 1)
  | false, false => none

def search (x : Binary64) (point : Int) : Nat → Nat → Digits
  | 0, count => ⟨0, count, point⟩
  | tries + 1, count =>
    match candidate x point count with
    | some k => ⟨k, count, point⟩
    | none => search x point tries (count + 1)

/-- The fewest digits that round to a magnitude other than zero. Seventeen always do. -/
def shortest (x : Binary64) : Digits :=
  let (num, den) := x.ratio
  search x (decimalPoint num den) 17 1

end Binary64

end LspClient.Json
