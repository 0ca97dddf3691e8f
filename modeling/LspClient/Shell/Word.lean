import LspClient.Text.Utf8

/-!
# Words of shell scripts

A script is a row of bytes, held as characters of one byte each. A word is made of parts: text, and things that
are put in when the word is used. Each part remembers whether it stood in quotes.
-/

namespace LspClient.Shell

/-- Bytes as characters. -/
abbrev Str := List Char

def Str.ofBytes (b : Bytes) : Str :=
  b.map fun x => Char.ofNat x.toNat

def Str.toBytes (s : Str) : Bytes :=
  s.map fun c => c.toNat.toUInt8

def Str.ofString (s : String) : Str :=
  Str.ofBytes (Bytes.ofString s)

/-- What is done with the value of a parameter. -/
inductive Operator where
  | plain
  | length
  /-- Cut off what a pattern matches in front or behind, the shortest or the longest piece. -/
  | trimFront (longest : Bool)
  | trimBack (longest : Bool)
  /-- Use a word instead of a value that is unset, or empty if so said. -/
  | fallback (orEmpty : Bool)
  /-- Use a word instead of a value and keep it. -/
  | assign (orEmpty : Bool)
  /-- Use a word if there is a value. -/
  | alternative (orEmpty : Bool)
deriving DecidableEq, Repr

inductive Part where
  | text (quoted : Bool) (s : Str)
  | parameter (quoted : Bool) (name : Str) (operator : Operator) (word : List Part)
  | command (quoted : Bool) (script : Str)
  | arithmetic (quoted : Bool) (expression : Str)

abbrev Word := List Part

def isNameStart (c : Char) : Bool :=
  let n := c.toNat
  (65 ≤ n && n ≤ 90) || (97 ≤ n && n ≤ 122) || c = '_'

def isDigit (c : Char) : Bool :=
  48 ≤ c.toNat && c.toNat ≤ 57

def isNameChar (c : Char) : Bool :=
  isNameStart c || isDigit c

def endsWord (c : Char) : Bool :=
  c = ' ' || c = '\t' || c = '\n' || c = ';' || c = '&' || c = '|' || c = '<' || c = '>' || c = '(' || c = ')'

def isSpecial (c : Char) : Bool :=
  isDigit c || c = '?' || c = '#' || c = '@' || c = '*' || c = '$' || c = '!' || c = '-'

/-- What stands around the characters of a word. -/
inductive Surrounding where
  | bare
  | quotes
  | braces (quoted : Bool)

def Surrounding.isQuoted : Surrounding → Bool
  | .bare => false
  | .quotes => true
  | .braces quoted => quoted

def mergeTexts : List Part → List Part
  | .text q s :: rest =>
    match mergeTexts rest with
    | .text q' s' :: rest' => if q = q' then .text q (s ++ s') :: rest' else .text q s :: .text q' s' :: rest'
    | rest' => .text q s :: rest'
  | p :: rest => p :: mergeTexts rest
  | [] => []

/-- Splits before the bracket that closes the innermost open one; quotes and backslashes are passed over.
`quote` is the quote that is open. -/
def closingBracket (depth : Nat) (quote : Option Char) (skip : Bool) (done : Str) : Str → Option (Str × Str)
  | [] => none
  | c :: rest =>
    if skip then closingBracket depth quote false (c :: done) rest
    else
      match quote with
      | some q =>
        if c = '\\' ∧ q = '\x22' then closingBracket depth quote true (c :: done) rest
        else if c = q then closingBracket depth none false (c :: done) rest
        else closingBracket depth quote false (c :: done) rest
      | none =>
        if c = '\\' then closingBracket depth none true (c :: done) rest
        else if c = '\x22' ∨ c = '\x27' then closingBracket depth (some c) false (c :: done) rest
        else if c = '(' then closingBracket (depth + 1) none false (c :: done) rest
        else if c = ')' then
          if depth = 0 then some (done.reverse, rest)
          else closingBracket (depth - 1) none false (c :: done) rest
        else closingBracket depth none false (c :: done) rest

/-- Whether an operator takes a pattern, which quotes around the parameter do not reach into. -/
def Operator.takesPattern : Operator → Bool
  | .trimFront _ | .trimBack _ => true
  | _ => false

/-- The operator behind a parameter's name in braces, and what follows it. -/
def operator (cs : Str) : Option (Operator × Str) :=
  match cs with
  | '#' :: '#' :: rest => some (.trimFront true, rest)
  | '#' :: rest => some (.trimFront false, rest)
  | '%' :: '%' :: rest => some (.trimBack true, rest)
  | '%' :: rest => some (.trimBack false, rest)
  | ':' :: '-' :: rest => some (.fallback true, rest)
  | '-' :: rest => some (.fallback false, rest)
  | ':' :: '=' :: rest => some (.assign true, rest)
  | '=' :: rest => some (.assign false, rest)
  | ':' :: '+' :: rest => some (.alternative true, rest)
  | '+' :: rest => some (.alternative false, rest)
  | _ => none

def parameterName (cs : Str) : Option (Str × Str) :=
  match cs with
  | c :: rest =>
    if isNameStart c then
      let name := cs.takeWhile isNameChar
      some (name, cs.drop name.length)
    else if isDigit c then
      let name := cs.takeWhile isDigit
      some (name, cs.drop name.length)
    else if isSpecial c then some ([c], rest)
    else none
  | [] => none

mutual

/-- Reads parts up to the end of what surrounds them; `done` holds those read, last one first. -/
def parts (surrounding : Surrounding) : Nat → List Part → Str → Option (List Part × Str)
  | 0, _, _ => none
  | fuel + 1, done, cs =>
    let quoted := surrounding.isQuoted
    match cs with
    | [] =>
      match surrounding with
      | .bare => some (done.reverse, [])
      | _ => none
    | c :: rest =>
      let stops := match surrounding with
        | .bare => endsWord c
        | .quotes => c = '\x22'
        | .braces _ => c = '\x7d'
      if stops then some (done.reverse, cs)
      else if c = '\x27' && !quoted then
        let inner := rest.takeWhile (· ≠ '\x27')
        match rest.drop inner.length with
        | _ :: rest => parts surrounding fuel (.text true inner :: done) rest
        | [] => none
      else if c = '\x22' then
        match parts .quotes fuel [] rest with
        | some (inner, _ :: rest) =>
          parts surrounding fuel ((.text true [] :: inner).reverse ++ done) rest
        | _ => none
      else if c = '\\' then
        match rest with
        | [] => some ((.text quoted [c] :: done).reverse, [])
        | d :: rest =>
          if d = '\n' then parts surrounding fuel done rest
          else if quoted && !(d = '$' || d = '\x60' || d = '\x22' || d = '\\') then
            parts surrounding fuel (.text true [c, d] :: done) rest
          else parts surrounding fuel (.text true [d] :: done) rest
      else if c = '\x60' then
        let inner := rest.takeWhile (· ≠ '\x60')
        match rest.drop inner.length with
        | _ :: rest => parts surrounding fuel (.command quoted inner :: done) rest
        | [] => none
      else if c = '$' then
        match dollar quoted fuel rest with
        | some (part, rest) => parts surrounding fuel (part :: done) rest
        | none => none
      else parts surrounding fuel (.text quoted [c] :: done) rest

/-- Reads what a dollar sign introduces. -/
def dollar (quoted : Bool) : Nat → Str → Option (Part × Str)
  | 0, _ => none
  | fuel + 1, cs =>
    match cs with
    | '(' :: '(' :: rest =>
      match closingBracket 0 none false [] rest with
      | some (inner, ')' :: rest) => some (.arithmetic quoted inner, rest)
      | _ => none
    | '(' :: rest =>
      match closingBracket 0 none false [] rest with
      | some (inner, rest) => some (.command quoted inner, rest)
      | none => none
    | '\x7b' :: '#' :: rest =>
      match parameterName rest with
      | some (name, '\x7d' :: rest) => some (.parameter quoted name .length [], rest)
      | _ =>
        match rest with
        | '\x7d' :: rest => some (.parameter quoted ['#'] .plain [], rest)
        | _ => none
    | '\x7b' :: rest =>
      match parameterName rest with
      | some (name, '\x7d' :: rest) => some (.parameter quoted name .plain [], rest)
      | some (name, rest) =>
        match operator rest with
        | some (op, rest) =>
          match parts (.braces (quoted && !op.takesPattern)) fuel [] rest with
          | some (word, _ :: rest) => some (.parameter quoted name op (mergeTexts word), rest)
          | _ => none
        | none => none
      | none => none
    | _ =>
      match cs with
      | c :: rest =>
        if isNameStart c then
          let name := cs.takeWhile isNameChar
          some (.parameter quoted name .plain [], cs.drop name.length)
        else if isSpecial c then some (.parameter quoted [c] .plain [], rest)
        else some (.text quoted ['$'], cs)
      | [] => some (.text quoted ['$'], [])

end

def word? (cs : Str) : Option (Word × Str) :=
  (parts .bare (2 * cs.length + 2) [] cs).map fun r => (mergeTexts r.1, r.2)

/-- Reads a whole text as one between double quotes. -/
def quotedWord? (cs : Str) : Option Word :=
  (parts .quotes (2 * cs.length + 4) [] (cs ++ ['\x22'])).map fun r => mergeTexts r.1

/-- The text of a word without quotes and without anything to put in. -/
def bareText? : Word → Option Str
  | [.text false s] => some s
  | _ => none

end LspClient.Shell
