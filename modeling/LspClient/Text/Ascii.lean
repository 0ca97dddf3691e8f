/-!
# Letter case of the twenty-six Latin letters

Names are compared without regard to case only in the letters A to Z; every other character stands for
itself.
-/

namespace LspClient.Text

/-- The small form of a capital letter A to Z; any other character unchanged. -/
def lowerAscii (c : Char) : Char :=
  if 'A'.toNat ≤ c.toNat ∧ c.toNat ≤ 'Z'.toNat then Char.ofNat (c.toNat + 32) else c

def sameIgnoringCase (a b : List Char) : Bool :=
  a.map lowerAscii == b.map lowerAscii

/-- Whether a character is a letter A to Z in either case or a digit. -/
def isAlphanumeric (c : Char) : Bool :=
  let n := c.toNat
  (48 ≤ n && n ≤ 57) || (65 ≤ n && n ≤ 90) || (97 ≤ n && n ≤ 122)

end LspClient.Text
