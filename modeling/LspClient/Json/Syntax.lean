/-!
# JSON documents as written

A document's tree with nothing decided yet: numbers keep their digits, strings their escapes, objects all
their members in order. What the tree denotes, and which trees are refused, is for its readers to say.
-/

namespace LspClient.Json

/-- A part of a string literal: a character standing for itself, or a four-digit escape. -/
inductive Fragment where
  | char (c : Char)
  | unit (code : Nat)
deriving DecidableEq, Repr

/-- A number literal: its sign, and the digits of its three parts. -/
structure Literal where
  negative : Bool
  whole : List Char
  fraction : Option (List Char)
  exponent : Option (Bool × List Char)
deriving DecidableEq, Repr

inductive Syntax where
  | null
  | bool (b : Bool)
  | number (n : Literal)
  | string (s : List Fragment)
  | array (elements : List Syntax)
  | object (members : List (List Fragment × Syntax))

namespace Fragment

def isHighSurrogate (n : Nat) : Bool := 0xD800 ≤ n && n < 0xDC00

def isLowSurrogate (n : Nat) : Bool := 0xDC00 ≤ n && n < 0xE000

/-- The character that two surrogate escapes denote together. -/
def joinSurrogates (high low : Nat) : Char :=
  Char.ofNat (0x10000 + (high - 0xD800) * 0x400 + (low - 0xDC00))

/-- The characters that a string literal denotes; a surrogate escape without its partner denotes none. -/
def decodeFrom (done : List Char) : List Fragment → Option (List Char)
  | [] => some done.reverse
  | .char c :: rest => decodeFrom (c :: done) rest
  | .unit high :: rest =>
    if isHighSurrogate high then
      match rest with
      | .unit low :: rest =>
        if isLowSurrogate low then decodeFrom (joinSurrogates high low :: done) rest else none
      | _ => none
    else if isLowSurrogate high then none
    else decodeFrom (Char.ofNat high :: done) rest

def decode? (s : List Fragment) : Option String :=
  (decodeFrom [] s).map String.ofList

end Fragment

mutual

/-- How many arrays and objects stand around the innermost value. -/
def Syntax.depth : Syntax → Nat
  | .array elements => Syntax.depthElements 0 elements + 1
  | .object members => Syntax.depthMembers 0 members + 1
  | _ => 0

def Syntax.depthElements (best : Nat) : List Syntax → Nat
  | [] => best
  | x :: rest => Syntax.depthElements (max best x.depth) rest

def Syntax.depthMembers (best : Nat) : List (List Fragment × Syntax) → Nat
  | [] => best
  | (_, x) :: rest => Syntax.depthMembers (max best x.depth) rest

end

end LspClient.Json
