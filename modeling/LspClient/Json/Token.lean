import LspClient.Decimal
import LspClient.Json.Syntax
import LspClient.Text.Hex

/-!
# JSON tokens

The lexer is a machine that reads one character at a time and keeps the tokens that it has found.
-/

namespace LspClient.Json

inductive Token where
  | openArray
  | closeArray
  | openObject
  | closeObject
  | colon
  | comma
  | null
  | bool (b : Bool)
  | number (n : Literal)
  | string (s : List Fragment)
deriving DecidableEq, Repr

namespace Literal

/-- A row of digits in front, and what follows it. -/
def spanDigits (cs : List Char) : List Char × List Char :=
  cs.span Decimal.isDigit

def exponentOf? (cs : List Char) : Option (Bool × List Char) :=
  let (negative, cs) :=
    match cs with
    | '-' :: rest => (true, rest)
    | '+' :: rest => (false, rest)
    | _ => (false, cs)
  if cs ≠ [] ∧ cs.all Decimal.isDigit then some (negative, cs) else none

/-- Reads what may follow the whole part and the fraction. -/
def tail? (negative : Bool) (whole : List Char) (fraction : Option (List Char)) :
    List Char → Option Literal
  | [] => some ⟨negative, whole, fraction, none⟩
  | c :: rest =>
    if c = 'e' ∨ c = 'E' then
      (exponentOf? rest).map fun e => ⟨negative, whole, fraction, some e⟩
    else none

/-- Reads a number literal without its sign. No digit may follow a leading zero. -/
def unsigned? (negative : Bool) (cs : List Char) : Option Literal :=
  let (whole, rest) := spanDigits cs
  if whole = [] ∨ (whole.length ≠ 1 ∧ whole.head? = some '0') then none
  else
    match rest with
    | '.' :: rest =>
      let (fraction, rest) := spanDigits rest
      if fraction = [] then none else tail? negative whole (some fraction) rest
    | _ => tail? negative whole none rest

def ofChars? : List Char → Option Literal
  | '-' :: rest => unsigned? true rest
  | cs => unsigned? false cs

end Literal

namespace Token

/-- Where the lexer stands. Characters and fragments read so far are kept last one first. -/
inductive Mode where
  | between
  | word (read : List Char)
  | number (read : List Char)
  | string (read : List Fragment)
  | escape (read : List Fragment)
  | code (read : List Fragment) (due : Nat) (value : Nat)

/-- A standing and the tokens found, last one first. -/
structure State where
  mode : Mode
  found : List Token

def isSpace (c : Char) : Bool :=
  c = ' ' || c = '\t' || c = '\n' || c = '\r'

def isNumberChar (c : Char) : Bool :=
  Decimal.isDigit c || c = '-' || c = '+' || c = '.' || c = 'e' || c = 'E'

def isNumberStart (c : Char) : Bool :=
  Decimal.isDigit c || c = '-'

def isLetter (c : Char) : Bool :=
  97 ≤ c.toNat && c.toNat ≤ 122

def ofWord? (read : List Char) : Option Token :=
  let word := read.reverse
  if word = ['n', 'u', 'l', 'l'] then some .null
  else if word = ['t', 'r', 'u', 'e'] then some (.bool true)
  else if word = ['f', 'a', 'l', 's', 'e'] then some (.bool false)
  else none

def ofMark? (c : Char) : Option Token :=
  if c = '[' then some .openArray
  else if c = ']' then some .closeArray
  else if c = '\x7b' then some .openObject
  else if c = '\x7d' then some .closeObject
  else if c = ':' then some .colon
  else if c = ',' then some .comma
  else none

def ofEscape? (c : Char) : Option Char :=
  if c = '\x22' ∨ c = '\\' ∨ c = '/' then some c
  else if c = 'b' then some '\x08'
  else if c = 'f' then some '\x0c'
  else if c = 'n' then some '\n'
  else if c = 'r' then some '\r'
  else if c = 't' then some '\t'
  else none

/-- Reads a character that begins a token or stands between two. -/
def start (found : List Token) (c : Char) : Option State :=
  if isSpace c then some ⟨.between, found⟩
  else if c = '\x22' then some ⟨.string [], found⟩
  else if isNumberStart c then some ⟨.number [c], found⟩
  else if isLetter c then some ⟨.word [c], found⟩
  else (ofMark? c).map fun t => ⟨.between, t :: found⟩

def step (s : State) (c : Char) : Option State :=
  match s.mode with
  | .between => start s.found c
  | .word read =>
    if isLetter c then some ⟨.word (c :: read), s.found⟩
    else (ofWord? read).bind fun t => start (t :: s.found) c
  | .number read =>
    if isNumberChar c then some ⟨.number (c :: read), s.found⟩
    else (Literal.ofChars? read.reverse).bind fun n => start (.number n :: s.found) c
  | .string read =>
    if c = '\x22' then some ⟨.between, .string read.reverse :: s.found⟩
    else if c = '\\' then some ⟨.escape read, s.found⟩
    else if c.toNat < 0x20 then none
    else some ⟨.string (.char c :: read), s.found⟩
  | .escape read =>
    if c = 'u' then some ⟨.code read 4 0, s.found⟩
    else (ofEscape? c).map fun d => ⟨.string (.char d :: read), s.found⟩
  | .code read due value =>
    (Hex.value? c).map fun d =>
      let value := 16 * value + d
      if due ≤ 1 then ⟨.string (.unit value :: read), s.found⟩
      else ⟨.code read (due - 1) value, s.found⟩

/-- Ends the text: closes a word or a number, and refuses an open string. -/
def finish (s : State) : Option (List Token) :=
  match s.mode with
  | .between => some s.found.reverse
  | .word read => (ofWord? read).map fun t => (t :: s.found).reverse
  | .number read => (Literal.ofChars? read.reverse).map fun n => (Token.number n :: s.found).reverse
  | _ => none

def run (s : State) : List Char → Option State
  | [] => some s
  | c :: rest =>
    match step s c with
    | some s => run s rest
    | none => none

def lex? (cs : List Char) : Option (List Token) :=
  (run ⟨.between, []⟩ cs).bind finish

end Token

end LspClient.Json
