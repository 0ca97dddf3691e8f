/-!
# UTF-8 over byte lists

Streams, paths and environment values are byte lists, and not all of them are text. `units` reads a
byte list as a sequence of characters and of ill-formed pieces, each piece being the longest run that
could still have begun a character. Strict decoding, lossy decoding and the place of the first fault are
three views of that one reading.
-/

namespace LspClient

/-- What travels on a stream, and what a path or an environment value is made of. -/
abbrev Bytes := List UInt8

namespace Utf8

/-- The byte form of one character, in one to four bytes. -/
def encodeChar (c : Char) : Bytes :=
  let n := c.toNat
  if n < 0x80 then [n.toUInt8]
  else if n < 0x800 then [(0xC0 + n / 0x40).toUInt8, (0x80 + n % 0x40).toUInt8]
  else if n < 0x10000 then
    [(0xE0 + n / 0x1000).toUInt8, (0x80 + n / 0x40 % 0x40).toUInt8, (0x80 + n % 0x40).toUInt8]
  else
    [(0xF0 + n / 0x40000).toUInt8, (0x80 + n / 0x1000 % 0x40).toUInt8,
      (0x80 + n / 0x40 % 0x40).toUInt8, (0x80 + n % 0x40).toUInt8]

def encode (cs : List Char) : Bytes :=
  cs.flatMap encodeChar

/-- A character that has begun: the bits so far, the number of bytes still due, the bounds that the
next byte must keep, and the bytes read, last one first. -/
structure Begun where
  bits : Nat
  due : Nat
  low : Nat
  high : Nat
  read : Bytes

/-- A piece of a byte list: a character, or a run that is no character. `cut` marks a run that only
lacks the bytes after it, so it can stand at the end alone. -/
inductive Piece where
  | char (c : Char)
  | malformed (bytes : Bytes) (cut : Bool)
deriving DecidableEq, Repr

/-- Where the reading stands between two bytes. -/
inductive Mode where
  | fresh
  | inside (b : Begun)

/-- What the first byte of a piece leads to. -/
def lead (b : UInt8) : Mode × List Piece :=
  let n := b.toNat
  let open_ (bits due low high : Nat) : Mode × List Piece :=
    (.inside ⟨bits, due, low, high, [b]⟩, [])
  if n < 0x80 then (.fresh, [.char (Char.ofNat n)])
  else if n < 0xC2 then (.fresh, [.malformed [b] false])
  else if n < 0xE0 then open_ (n - 0xC0) 1 0x80 0xBF
  else if n = 0xE0 then open_ 0 2 0xA0 0xBF
  else if n = 0xED then open_ 0xD 2 0x80 0x9F
  else if n < 0xF0 then open_ (n - 0xE0) 2 0x80 0xBF
  else if n = 0xF0 then open_ 0 3 0x90 0xBF
  else if n < 0xF4 then open_ (n - 0xF0) 3 0x80 0xBF
  else if n = 0xF4 then open_ 4 3 0x80 0x8F
  else (.fresh, [.malformed [b] false])

/-- Reads one byte: the new standing and the pieces that it completes. A byte that cannot continue the
character begun closes that run and begins a piece of its own. -/
def step : Mode → UInt8 → Mode × List Piece
  | .fresh, b => lead b
  | .inside m, b =>
    let n := b.toNat
    if m.low ≤ n ∧ n ≤ m.high then
      let bits := m.bits * 0x40 + (n - 0x80)
      if m.due ≤ 1 then (.fresh, [.char (Char.ofNat bits)])
      else (.inside ⟨bits, m.due - 1, 0x80, 0xBF, b :: m.read⟩, [])
    else
      let (next, done) := lead b
      (next, .malformed m.read.reverse false :: done)

/-- The piece that the end of the bytes leaves behind. -/
def finish : Mode → List Piece
  | .fresh => []
  | .inside m => [.malformed m.read.reverse true]

/-- Reads on from a standing; `done` holds the pieces found, last one first. -/
def unitsFrom (mode : Mode) (done : List Piece) : Bytes → List Piece
  | [] => ((finish mode).reverse ++ done).reverse
  | b :: rest =>
    let (next, found) := step mode b
    unitsFrom next (found.reverse ++ done) rest

def units (bytes : Bytes) : List Piece :=
  unitsFrom .fresh [] bytes

/-- The characters of the pieces, if every piece is one. -/
def strict (acc : List Char) : List Piece → Option (List Char)
  | [] => some acc.reverse
  | .char c :: rest => strict (c :: acc) rest
  | .malformed _ _ :: _ => none

/-- Decodes well-formed bytes and refuses all others. -/
def decode? (bytes : Bytes) : Option (List Char) :=
  strict [] (units bytes)

/-- Decodes any bytes: each ill-formed run becomes one replacement character. -/
def decodeLossy (bytes : Bytes) : List Char :=
  (units bytes).map fun
    | .char c => c
    | .malformed _ _ => Char.ofNat 0xFFFD

/-- The first fault of a byte list: its offset, and its length unless the bytes just end there. -/
structure Fault where
  offset : Nat
  length : Option Nat
deriving DecidableEq, Repr

/-- Looks for the first fault in pieces that begin at `offset`. -/
def faultFrom (offset : Nat) : List Piece → Option Fault
  | [] => none
  | .char c :: rest => faultFrom (offset + (encodeChar c).length) rest
  | .malformed bytes cut :: _ => some ⟨offset, if cut then none else some bytes.length⟩

def fault? (bytes : Bytes) : Option Fault :=
  faultFrom 0 (units bytes)

def Fault.message (f : Fault) : String :=
  match f.length with
  | some n => s!"invalid utf-8 sequence of {n} bytes from index {f.offset}"
  | none => s!"incomplete utf-8 byte sequence from index {f.offset}"

end Utf8

def Bytes.ofString (s : String) : Bytes :=
  Utf8.encode s.toList

/-- The text that the bytes spell, if they spell one. -/
def Bytes.text? (b : Bytes) : Option String :=
  (Utf8.decode? b).map String.ofList

/-- The bytes as text for showing, with a replacement character for each ill-formed run. -/
def Bytes.display (b : Bytes) : String :=
  String.ofList (Utf8.decodeLossy b)

end LspClient
