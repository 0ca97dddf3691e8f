/-!
# Decimal numerals

The numeral of a natural number, and the number that a row of digits denotes.
-/

namespace LspClient.Decimal

def digitChar (d : Nat) : Char :=
  Char.ofNat (48 + d)

def isDigit (c : Char) : Bool :=
  48 ≤ c.toNat && c.toNat ≤ 57

def digitValue (c : Char) : Nat :=
  c.toNat - 48

def digits (n : Nat) : List Char :=
  if n < 10 then [digitChar n] else digits (n / 10) ++ [digitChar (n % 10)]
termination_by n

/-- The number that a row of digits denotes; leading zeros count for nothing. -/
def value (cs : List Char) : Nat :=
  cs.foldl (fun n c => 10 * n + digitValue c) 0

/-- The number of a row of one or more digits; any other text denotes none. -/
def value? (cs : List Char) : Option Nat :=
  if cs ≠ [] ∧ cs.all isDigit then some (value cs) else none

def render (n : Nat) : String :=
  String.ofList (digits n)

/-- The numeral of an integer, with a minus sign below zero. -/
def renderInt (i : Int) : String :=
  if i < 0 then "-" ++ render i.natAbs else render i.natAbs

end LspClient.Decimal
