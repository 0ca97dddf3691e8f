import LspClient.Json.Binary64
import LspClient.Json.Syntax

/-!
# The value of a number literal

A literal without fraction and exponent is an integer if it fits into 64 bits, signed below zero and
unsigned above. Every other literal is a double, computed in two rounded steps: the leading digits that
fit into 64 bits are rounded to a magnitude, and that is multiplied or divided by a rounded power of ten.
-/

namespace LspClient.Json

inductive Number where
  | int (i : Int)
  | double (negative : Bool) (magnitude : Binary64)
deriving DecidableEq, Repr

namespace Number

/-- Digits taken into a 64-bit number, and the count of those that no longer fitted. -/
structure Leading where
  kept : Nat
  dropped : Nat

def wordBound : Nat := 0x10000000000000000

/-- Takes the digits of the whole part. After the first one that does not fit none is kept. -/
def takeWhole (s : Leading) (c : Char) : Leading :=
  let next := 10 * s.kept + Decimal.digitValue c
  if s.dropped = 0 ∧ next < wordBound then ⟨next, 0⟩ else ⟨s.kept, s.dropped + 1⟩

/-- Takes digits of the fraction while they fit: the number and the count of places taken. -/
def takeFraction (kept places : Nat) : List Char → Nat × Nat
  | [] => (kept, places)
  | c :: rest =>
    let next := 10 * kept + Decimal.digitValue c
    if next < wordBound then takeFraction next (places + 1) rest else (kept, places)

def powerOfTen (e : Nat) : Binary64 :=
  (Binary64.nearest (Nat.pow 10 e) 1).getD Binary64.zero

def maxPower : Nat := 308

/-- `x · 10 ^ e` for a negative `e`, by rounded divisions that each take off at most `maxPower` places. -/
def scaleDown : Nat → Binary64 → Int → Option Binary64
  | 0, _, _ => some Binary64.zero
  | steps + 1, x, e =>
    if x.mantissa = 0 then some Binary64.zero
    else if -(maxPower : Int) ≤ e then x.div (powerOfTen (-e).toNat)
    else (x.div (powerOfTen maxPower)).bind fun y => scaleDown steps y (e + maxPower)

/-- `x · 10 ^ e` by rounded steps for an `x` of at most 64 bits; `none` if the number is too great. Two
divisions by the greatest power leave nothing of such an `x`. -/
def scaleBy (x : Binary64) (e : Int) : Option Binary64 :=
  if x.mantissa = 0 then some Binary64.zero
  else if e < 0 then scaleDown 3 x e
  else if e ≤ maxPower then x.mul (powerOfTen e.toNat)
  else none

def writtenExponent (n : Literal) : Int :=
  match n.exponent with
  | none => 0
  | some (true, ds) => -(Decimal.value ds : Int)
  | some (false, ds) => Decimal.value ds

/-- The magnitude of a literal as a double. -/
def magnitude? (n : Literal) : Option Binary64 :=
  let whole := n.whole.foldl takeWhole ⟨0, 0⟩
  let (kept, places) := takeFraction whole.kept 0 (n.fraction.getD [])
  (Binary64.nearest kept 1).bind fun x =>
    scaleBy x (writtenExponent n + whole.dropped - places)

/-- The number that a literal denotes; `none` if it is too great for a double. -/
def ofLiteral? (n : Literal) : Option Number :=
  let whole := Decimal.value n.whole
  let isInteger := n.fraction.isNone && n.exponent.isNone
  if isInteger && !n.negative && whole < wordBound then some (.int whole)
  else if isInteger && n.negative && 0 < whole && whole ≤ 0x8000000000000000 then some (.int (-(whole : Int)))
  else (magnitude? n).map (.double n.negative)

/-- Greatest and least places before the point that are written without an exponent. -/
def plainPoints : Int × Int := (-4, 16)

/-- A double in decimal: the fewest digits, with a point if its size is ordinary and else with an
exponent whose sign is always written. -/
def renderDouble (x : Binary64) : List Char :=
  if x.mantissa = 0 then ['0', '.', '0']
  else
    let d := x.shortest
    let ds := Decimal.digits d.digits
    -- A candidate of the next power of ten has one digit more.
    let point := d.point + (ds.length - d.count : Int)
    let ds := (ds.reverse.dropWhile (· = '0')).reverse
    if plainPoints.1 ≤ point ∧ point ≤ plainPoints.2 then
      if point ≤ 0 then '0' :: '.' :: List.replicate (-point).toNat '0' ++ ds
      else
        let p := point.toNat
        if ds.length ≤ p then ds ++ List.replicate (p - ds.length) '0' ++ ['.', '0']
        else ds.take p ++ '.' :: ds.drop p
    else
      let e := point - 1
      let sign := if e < 0 then '-' else '+'
      let head := if ds.length ≤ 1 then ds else ds.take 1 ++ '.' :: ds.drop 1
      head ++ 'e' :: sign :: Decimal.digits e.natAbs

def render : Number → List Char
  | .int i => if i < 0 then '-' :: Decimal.digits i.natAbs else Decimal.digits i.natAbs
  | .double negative x => if negative then '-' :: renderDouble x else renderDouble x

end Number

end LspClient.Json
