import LspClient.Config.Toml.Scalar

/-!
# Reading TOML

Statements are read line by line: headers that open a table, and keys with their values. Strings and blanks
are read by machines that go through the characters once; values nest by a budget that every step of a
container reduces.
-/

namespace LspClient.Config.Toml

def isBlank (c : Char) : Bool := c = ' ' || c = '\t'

def skipBlanks (cs : List Char) : List Char :=
  cs.dropWhile isBlank

/-- Whether a character may stand in a comment or a single-line string. -/
def isPrintable (c : Char) : Bool :=
  c = '\t' || (0x20 ≤ c.toNat && c.toNat ≠ 0x7F)

/-- Skips blanks, ends of lines and comments. -/
def skipTrivia (inComment : Bool) : List Char → Option (List Char)
  | [] => some []
  | c :: rest =>
    if c = '\n' then skipTrivia false rest
    else if c = '\r' then if rest.head? = some '\n' then skipTrivia inComment rest else none
    else if inComment then if isPrintable c then skipTrivia true rest else none
    else if isBlank c then skipTrivia false rest
    else if c = '#' then skipTrivia true rest
    else some (c :: rest)

/-- Skips what may follow a statement on its line, and the end of the line. -/
def endLine (inComment : Bool) : List Char → Option (List Char)
  | [] => some []
  | c :: rest =>
    if c = '\n' then some rest
    else if c = '\r' then if rest.head? = some '\n' then endLine inComment rest else none
    else if inComment then if isPrintable c then endLine true rest else none
    else if isBlank c then endLine false rest
    else if c = '#' then endLine true rest
    else none

/-- Where the reading of a string with escapes stands. -/
inductive StringMode where
  | plain
  /-- So many quotes were read, which may end a string of several lines. -/
  | quotes (count : Nat)
  | escape
  | code (due value : Nat)
  /-- An escaped end of line drops blanks and ends of lines; one end of line has to come. -/
  | trimming (sawNewline : Bool)

def escapeChar? (c : Char) : Option Char :=
  if c = '\x22' ∨ c = '\\' then some c
  else if c = 'b' then some '\x08'
  else if c = 't' then some '\t'
  else if c = 'n' then some '\n'
  else if c = 'f' then some '\x0c'
  else if c = 'r' then some '\r'
  else if c = 'e' then some '\x1b'
  else none

/-- How many hexadecimal digits follow an escape letter. -/
def codeLength? (c : Char) : Option Nat :=
  if c = 'x' then some 2 else if c = 'u' then some 4 else if c = 'U' then some 8 else none

def isScalar (n : Nat) : Bool :=
  n < 0xD800 || (0xE000 ≤ n && n < 0x110000)

/-- Reads a string with escapes up to its closing quote. -/
def basicString : StringMode → List Char → List Char → Option (List Char × List Char)
  | _, _, [] => none
  | .plain, done, c :: rest =>
    if c = '\x22' then some (done.reverse, rest)
    else if c = '\\' then basicString .escape done rest
    else if isPrintable c then basicString .plain (c :: done) rest
    else none
  | .escape, done, c :: rest =>
    match escapeChar? c, codeLength? c with
    | some d, _ => basicString .plain (d :: done) rest
    | none, some n => basicString (.code n 0) done rest
    | none, none => none
  | .code due value, done, c :: rest =>
    match digitIn? 16 c with
    | none => none
    | some d =>
      let value := 16 * value + d
      if due ≤ 1 then
        if isScalar value then basicString .plain (Char.ofNat value :: done) rest else none
      else basicString (.code (due - 1) value) done rest
  | _, _, _ :: _ => none

/-- Reads a string of several lines with escapes up to its closing quotes. Two quotes more than the closing
three belong to the text. -/
def multilineBasic : StringMode → List Char → List Char → Option (List Char × List Char)
  | .quotes n, done, [] =>
    if 3 ≤ n ∧ n ≤ 5 then some ((List.replicate (n - 3) '\x22' ++ done).reverse, []) else none
  | _, _, [] => none
  | .quotes n, done, c :: rest =>
    if c = '\x22' then multilineBasic (.quotes (n + 1)) done rest
    else if 3 ≤ n then
      if n ≤ 5 then some ((List.replicate (n - 3) '\x22' ++ done).reverse, c :: rest) else none
    else
      let done := List.replicate n '\x22' ++ done
      if c = '\\' then multilineBasic .escape done rest
      else if c = '\r' then
        if rest.head? = some '\n' then multilineBasic (.quotes 0) (c :: done) rest else none
      else if c = '\n' ∨ isPrintable c then multilineBasic (.quotes 0) (c :: done) rest
      else none
  | .plain, done, c :: rest =>
    -- The first end of line does not belong to the text.
    if c = '\n' then multilineBasic (.quotes 0) done rest
    else if c = '\r' then if rest.head? = some '\n' then multilineBasic .plain done rest else none
    else if c = '\x22' then multilineBasic (.quotes 1) done rest
    else if c = '\\' then multilineBasic .escape done rest
    else if isPrintable c then multilineBasic (.quotes 0) (c :: done) rest
    else none
  | .escape, done, c :: rest =>
    match escapeChar? c, codeLength? c with
    | some d, _ => multilineBasic (.quotes 0) (d :: done) rest
    | none, some n => multilineBasic (.code n 0) done rest
    | none, none =>
      if isBlank c then multilineBasic (.trimming false) done rest
      else if c = '\n' then multilineBasic (.trimming true) done rest
      else if c = '\r' ∧ rest.head? = some '\n' then multilineBasic (.trimming false) done rest
      else none
  | .code due value, done, c :: rest =>
    match digitIn? 16 c with
    | none => none
    | some d =>
      let value := 16 * value + d
      if due ≤ 1 then
        if isScalar value then multilineBasic (.quotes 0) (Char.ofNat value :: done) rest else none
      else multilineBasic (.code (due - 1) value) done rest
  | .trimming saw, done, c :: rest =>
    if isBlank c then multilineBasic (.trimming saw) done rest
    else if c = '\n' then multilineBasic (.trimming true) done rest
    else if c = '\r' ∧ rest.head? = some '\n' then multilineBasic (.trimming saw) done rest
    else if !saw then none
    else if c = '\x22' then multilineBasic (.quotes 1) done rest
    else if c = '\\' then multilineBasic .escape done rest
    else if isPrintable c then multilineBasic (.quotes 0) (c :: done) rest
    else none

def literalString (done : List Char) : List Char → Option (List Char × List Char)
  | [] => none
  | c :: rest =>
    if c = '\x27' then some (done.reverse, rest)
    else if isPrintable c then literalString (c :: done) rest
    else none

/-- Reads a string of several lines without escapes; `quotes` counts those just read. -/
def multilineLiteral (quotes : Nat) (done : List Char) : List Char → Option (List Char × List Char)
  | [] =>
    if 3 ≤ quotes ∧ quotes ≤ 5 then some ((List.replicate (quotes - 3) '\x27' ++ done).reverse, [])
    else none
  | c :: rest =>
    if c = '\x27' then multilineLiteral (quotes + 1) done rest
    else if 3 ≤ quotes then
      if quotes ≤ 5 then some ((List.replicate (quotes - 3) '\x27' ++ done).reverse, c :: rest) else none
    else
      let done := List.replicate quotes '\x27' ++ done
      if c = '\r' then if rest.head? = some '\n' then multilineLiteral 0 (c :: done) rest else none
      else if c = '\n' ∨ isPrintable c then multilineLiteral 0 (c :: done) rest
      else none

def dropNewline : List Char → List Char
  | '\n' :: rest => rest
  | '\r' :: '\n' :: rest => rest
  | cs => cs

/-- Reads a string behind its first quote, which is double or single. -/
def stringValue? (quote : Char) (cs : List Char) : Option (List Char × List Char) :=
  match cs with
  | a :: b :: rest =>
    if a = quote ∧ b = quote then
      if quote = '\x22' then multilineBasic .plain [] rest else multilineLiteral 0 [] (dropNewline rest)
    else if quote = '\x22' then basicString .plain [] cs
    else literalString [] cs
  | _ => if quote = '\x22' then basicString .plain [] cs else literalString [] cs

def isQuote (c : Char) : Bool := c = '\x22' || c = '\x27'

def isBareKeyChar (c : Char) : Bool :=
  let n := c.toNat
  (48 ≤ n && n ≤ 57) || (65 ≤ n && n ≤ 90) || (97 ≤ n && n ≤ 122) || c = '-' || c = '_'

def keyPart? (cs : List Char) : Option (String × List Char) :=
  match cs with
  | '\x22' :: rest => (basicString .plain [] rest).map fun r => (String.ofList r.1, r.2)
  | '\x27' :: rest => (literalString [] rest).map fun r => (String.ofList r.1, r.2)
  | _ =>
    let word := cs.takeWhile isBareKeyChar
    if word = [] then none else some (String.ofList word, cs.drop word.length)

def maxKeyParts : Nat := 80

/-- Reads at most so many parts of a key with dots between them: the parts before the last, the last part, and
what follows the key. `path` holds the parts in front, last one first. -/
def keyParts? : Nat → List String → List Char → Option (List String × String × List Char)
  | 0, _, _ => none
  | parts + 1, path, cs =>
    match keyPart? (skipBlanks cs) with
    | none => none
    | some (part, rest) =>
      match skipBlanks rest with
      | '.' :: rest => keyParts? parts (part :: path) rest
      | rest => some (path.reverse, part, rest)

def key? (cs : List Char) : Option (List String × String × List Char) :=
  keyParts? maxKeyParts [] cs

def isScalarChar (c : Char) : Bool :=
  isBareKeyChar c || c = '+' || c = '.' || c = ':'

/-- Reads a bare scalar. A date and a time may have one space between them. -/
def bareScalar? (cs : List Char) : Option (Toml × List Char) :=
  let word := cs.takeWhile isScalarChar
  let rest := cs.drop word.length
  let (word, rest) :=
    match rest with
    | ' ' :: d :: more =>
      if Decimal.isDigit d ∧ afterDate? word = some [] then
        let time := (d :: more).takeWhile isScalarChar
        (word ++ ' ' :: time, (d :: more).drop time.length)
      else (word, rest)
    | _ => (word, rest)
  (scalar? word).map fun v => (v, rest)

/-- What follows an equals sign in front. In an inline table the value may stand on a later line. -/
def afterEquals? : List Char → Option (List Char)
  | '=' :: rest => skipTrivia false rest
  | _ => none

def maxNesting : Nat := 80

mutual

/-- Reads a value; `depth` containers stand around it. -/
def value? : Nat → Nat → List Char → Option (Toml × List Char)
  | 0, _, _ => none
  | fuel + 1, depth, cs =>
    match cs with
    | [] => none
    | c :: rest =>
      if isQuote c then (stringValue? c rest).map fun r => (.text (String.ofList r.1), r.2)
      else if c = '[' then
        if depth < maxNesting then elements? fuel (depth + 1) [] rest else none
      else if c = '\x7b' then
        if depth < maxNesting then members? fuel (depth + 1) [] rest else none
      else bareScalar? cs

/-- Reads the elements of an array up to its bracket; `done` holds those read, last one first. -/
def elements? : Nat → Nat → List Toml → List Char → Option (Toml × List Char)
  | 0, _, _, _ => none
  | fuel + 1, depth, done, cs =>
    match skipTrivia false cs with
    | none => none
    | some (']' :: rest) => some (.array done.reverse, rest)
    | some cs =>
      match value? fuel depth cs with
      | none => none
      | some (v, rest) =>
        match skipTrivia false rest with
        | some (']' :: rest) => some (.array (v :: done).reverse, rest)
        | some (',' :: rest) => elements? fuel depth (v :: done) rest
        | _ => none

/-- Reads the members of an inline table up to its brace. -/
def members? : Nat → Nat → Entries → List Char → Option (Toml × List Char)
  | 0, _, _, _ => none
  | fuel + 1, depth, entries, cs =>
    match skipTrivia false cs with
    | none => none
    | some ('\x7d' :: rest) => some (.table .inline entries, rest)
    | some cs =>
      match key? cs with
      | none => none
      | some (path, key, rest) =>
        match (skipTrivia false rest).bind afterEquals? with
        | none => none
        | some rest =>
          match value? fuel depth rest with
          | none => none
          | some (v, rest) =>
            match insert entries path key v, skipTrivia false rest with
            | some entries, some ('\x7d' :: rest) => some (.table .inline entries, rest)
            | some entries, some (',' :: rest) => members? fuel depth entries rest
            | _, _ => none

end

/-- The document so far, and the table that keys go into: the path to it, the last part apart. -/
structure Document where
  entries : Entries := []
  current : List String := []

def Document.assign (d : Document) (path : List String) (key : String) (v : Toml) : Option Document :=
  (descend d.entries (fun entries => insert entries path key v) d.current).map fun entries =>
    { d with entries := entries }

/-- Opens the table that a header names. -/
def Document.openTable (d : Document) (path : List String) (key : String) : Option Document :=
  (defineTable d.entries path key).map fun entries => ⟨entries, path ++ [key]⟩

/-- Opens a new element of the array of tables that a header names. -/
def Document.openElement (d : Document) (path : List String) (key : String) : Option Document :=
  (defineElement d.entries path key).map fun entries => ⟨entries, path ++ [key]⟩

def statement? (d : Document) (cs : List Char) : Option (Document × List Char) :=
  match cs with
  | '[' :: '[' :: rest =>
    match key? rest with
    | some (path, key, ']' :: ']' :: rest) =>
      match d.openElement path key, endLine false rest with
      | some d, some rest => some (d, rest)
      | _, _ => none
    | _ => none
  | '[' :: rest =>
    match key? rest with
    | some (path, key, ']' :: rest) =>
      match d.openTable path key, endLine false rest with
      | some d, some rest => some (d, rest)
      | _, _ => none
    | _ => none
  | _ =>
    match key? cs with
    | some (path, key, '=' :: rest) =>
      match value? (2 * cs.length + 2) 0 (skipBlanks rest) with
      | some (v, rest) =>
        match d.assign path key v, endLine false rest with
        | some d, some rest => some (d, rest)
        | _, _ => none
      | none => none
    | _ => none

def statements? : Nat → Document → List Char → Option Document
  | 0, _, _ => none
  | fuel + 1, d, cs =>
    match skipTrivia false cs with
    | none => none
    | some [] => some d
    | some cs =>
      match statement? d cs with
      | some (d, rest) => statements? fuel d rest
      | none => none

def dropMark : List Char → List Char
  | c :: rest => if c.toNat = 0xFEFF then rest else c :: rest
  | [] => []

def parse? (text : String) : Option Entries :=
  let cs := dropMark text.toList
  (statements? (cs.length + 1) {} cs).map Document.entries

end LspClient.Config.Toml
