import LspClient.Shell.Utility

/-!
# Arithmetic in scripts

Integers in three bases, variables, brackets, the operations and comparisons with their usual strength, and
choices.
-/

namespace LspClient.Shell

def skipBlanks (s : Str) : Str :=
  s.dropWhile fun c => c = ' ' || c = '\t' || c = '\n'

/-- The operator in front, how strongly it binds, and what follows it. -/
def infixOperator? (s : Str) : Option (String × Nat × Str) :=
  match s with
  | '|' :: '|' :: rest => some ("||", 1, rest)
  | '&' :: '&' :: rest => some ("&&", 2, rest)
  | '|' :: rest => some ("|", 3, rest)
  | '^' :: rest => some ("^", 4, rest)
  | '&' :: rest => some ("&", 5, rest)
  | '=' :: '=' :: rest => some ("==", 6, rest)
  | '!' :: '=' :: rest => some ("!=", 6, rest)
  | '<' :: '<' :: rest => some ("<<", 8, rest)
  | '>' :: '>' :: rest => some (">>", 8, rest)
  | '<' :: '=' :: rest => some ("<=", 7, rest)
  | '>' :: '=' :: rest => some (">=", 7, rest)
  | '<' :: rest => some ("<", 7, rest)
  | '>' :: rest => some (">", 7, rest)
  | '+' :: rest => some ("+", 9, rest)
  | '-' :: rest => some ("-", 9, rest)
  | '*' :: rest => some ("*", 10, rest)
  | '/' :: rest => some ("/", 10, rest)
  | '%' :: rest => some ("%", 10, rest)
  | _ => none

def truth (b : Bool) : Int := if b then 1 else 0

/-- An operation on the bits of two integers. -/
def onBits (op : Int64 → Int64 → Int64) (x y : Int) : Int :=
  (op (Int64.ofInt x) (Int64.ofInt y)).toInt

/-- Applies an operator. Dividing by zero has no result. -/
def operate (op : String) (x y : Int) : Option Int :=
  match op with
  | "==" => some (truth (x == y))
  | "!=" => some (truth (x != y))
  | "<=" => some (truth (x ≤ y))
  | ">=" => some (truth (y ≤ x))
  | "<" => some (truth (x < y))
  | ">" => some (truth (y < x))
  | "+" => some (x + y)
  | "-" => some (x - y)
  | "*" => some (x * y)
  | "/" => if y = 0 then none else some (Int.tdiv x y)
  | "%" => if y = 0 then none else some (Int.tmod x y)
  | "||" => some (truth (x != 0 || y != 0))
  | "&&" => some (truth (x != 0 && y != 0))
  | "|" => some (onBits (· ||| ·) x y)
  | "^" => some (onBits (· ^^^ ·) x y)
  | "&" => some (onBits (· &&& ·) x y)
  | "<<" => some (onBits (· <<< ·) x y)
  | ">>" => some (onBits (· >>> ·) x y)
  | _ => none

mutual

/-- A whole expression, which may choose between two others. -/
def choice (value : Str → Int) : Nat → Str → Option (Int × Str)
  | 0, _ => none
  | fuel + 1, s =>
    match expression value 0 fuel s with
    | none => none
    | some (x, rest) =>
      match skipBlanks rest with
      | '?' :: rest =>
        match choice value fuel rest with
        | none => none
        | some (a, rest) =>
          match skipBlanks rest with
          | ':' :: rest => (choice value fuel rest).map fun r => (if x = 0 then r.1 else a, r.2)
          | _ => none
      | _ => some (x, rest)

/-- An expression of operators that bind at least as strongly as `level`. -/
def expression (value : Str → Int) (level : Nat) : Nat → Str → Option (Int × Str)
  | 0, _ => none
  | fuel + 1, s =>
    match operand value fuel s with
    | some (x, rest) => expressionMore value level fuel x rest
    | none => none

def expressionMore (value : Str → Int) (level : Nat) : Nat → Int → Str → Option (Int × Str)
  | 0, _, _ => none
  | fuel + 1, x, s =>
    match infixOperator? (skipBlanks s) with
    | some (op, strength, rest) =>
      if strength < level then some (x, s)
      else
        match expression value (strength + 1) fuel rest with
        | some (y, rest) =>
          match operate op x y with
          | some z => expressionMore value level fuel z rest
          | none => none
        | none => none
    | none => some (x, s)

def operand (value : Str → Int) : Nat → Str → Option (Int × Str)
  | 0, _ => none
  | fuel + 1, s =>
    match skipBlanks s with
    | '-' :: rest => (operand value fuel rest).map fun r => (-r.1, r.2)
    | '+' :: rest => operand value fuel rest
    | '!' :: rest => (operand value fuel rest).map fun r => (truth (r.1 == 0), r.2)
    | '~' :: rest => (operand value fuel rest).map fun r => (-r.1 - 1, r.2)
    | '(' :: rest =>
      match choice value fuel rest with
      | some (x, rest) =>
        match skipBlanks rest with
        | ')' :: rest => some (x, rest)
        | _ => none
      | none => none
    | s =>
      let s := match s with
        | '$' :: rest => rest
        | _ => s
      let word := s.takeWhile isNameChar
      let rest := s.drop word.length
      match word with
      | [] => none
      | c :: _ =>
        if isDigit c then (printedNumber? word).map fun n => (n, rest) else some (value word, rest)

end

def arithmetic (s : State) (text : Str) : Option Int :=
  let value (name : Str) : Int := (printedNumber? ((s.value? name).getD [])).getD 0
  match choice value (4 * text.length + 4) text with
  | some (x, rest) => if skipBlanks rest = [] then some x else none
  | none => none

end LspClient.Shell
