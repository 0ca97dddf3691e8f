import LspClient.Text.Utf8

/-!
# Paths

A path is a row of bytes with `/` between its parts. Nothing is looked up and nothing is normalised:
joining keeps both sides as they are written.
-/

namespace LspClient.Path

def separator : UInt8 := 0x2F

def isAbsolute (p : Bytes) : Bool :=
  p.head? == some separator

/-- Puts `q` below `p`. An absolute `q` stands alone, and a separator is put in between only where there
is something in front that does not already end in one. -/
def join (p q : Bytes) : Bytes :=
  if isAbsolute q then q
  else if p = [] ∨ p.getLast? = some separator then p ++ q
  else p ++ separator :: q

def joinText (p : Bytes) (q : String) : Bytes :=
  join p (Bytes.ofString q)

/-- Splits at every separator; `part` holds the part begun, last byte first. -/
def splitFrom (part : Bytes) : Bytes → List Bytes
  | [] => [part.reverse]
  | b :: rest => if b = separator then part.reverse :: splitFrom [] rest else splitFrom (b :: part) rest

def split (p : Bytes) : List Bytes :=
  splitFrom [] p

/-- The parts that name something: empty parts and single dots do not. -/
def components (p : Bytes) : List Bytes :=
  (split p).filter fun part => part ≠ [] ∧ part ≠ [0x2E]

/-- The last part of a path, with nothing behind it. -/
def lastComponent? (p : Bytes) : Option Bytes :=
  (components p).getLast?

end LspClient.Path
