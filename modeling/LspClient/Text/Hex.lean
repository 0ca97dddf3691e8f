/-!
# Hexadecimal digits
-/

namespace LspClient.Hex

/-- The digit of a number below sixteen, with small or with capital letters. -/
def digit (capital : Bool) (n : Nat) : Char :=
  if n < 10 then Char.ofNat (48 + n) else Char.ofNat ((if capital then 55 else 87) + n)

/-- The value of a digit, whether its letters are small or capital. -/
def value? (c : Char) : Option Nat :=
  let n := c.toNat
  if 48 ≤ n ∧ n ≤ 57 then some (n - 48)
  else if 97 ≤ n ∧ n ≤ 102 then some (n - 87)
  else if 65 ≤ n ∧ n ≤ 70 then some (n - 55)
  else none

theorem value?_digit (capital : Bool) {n : Nat} (h : n < 16) : value? (digit capital n) = some n := by
  have hall : ∀ capital, ∀ n < 16, value? (digit capital n) = some n := by decide
  exact hall capital n h

end LspClient.Hex
