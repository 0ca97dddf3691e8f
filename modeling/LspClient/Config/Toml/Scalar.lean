import LspClient.Config.Toml.Value
import LspClient.Decimal
import LspClient.Json.Binary64

/-!
# Numbers, dates and times in TOML

The bare scalars: integers in four bases, floats, dates and times. Underscores may stand between two digits
of a number.
-/

namespace LspClient.Config.Toml

def digitIn? (base : Nat) (c : Char) : Option Nat :=
  let n := c.toNat
  let d? :=
    if 48 ≤ n ∧ n ≤ 57 then some (n - 48)
    else if 97 ≤ n ∧ n ≤ 102 then some (n - 87)
    else if 65 ≤ n ∧ n ≤ 70 then some (n - 55)
    else none
  d?.filter (· < base)

/-- Digits with single underscores between them; `afterDigit` tells whether a digit stands in front. -/
def digitsFrom (base : Nat) (afterDigit : Bool) (done : List Char) : List Char → Option (List Char)
  | [] => if afterDigit then some done.reverse else none
  | c :: rest =>
    if c = '_' then if afterDigit then digitsFrom base false done rest else none
    else if (digitIn? base c).isSome then digitsFrom base true (c :: done) rest
    else none

def digits? (base : Nat) (cs : List Char) : Option (List Char) :=
  digitsFrom base false [] cs

def valueIn (base : Nat) (ds : List Char) : Nat :=
  ds.foldl (fun n c => base * n + (digitIn? base c).getD 0) 0

/-- Integers are read up to 128 bits, with or without a sign. -/
def inRange (i : Int) : Bool :=
  -(0x80000000000000000000000000000000 : Int) ≤ i && i < 0x100000000000000000000000000000000

/-- The sign in front of a number: whether it is negative, whether it was written, and the rest. -/
def sign (cs : List Char) : Bool × Bool × List Char :=
  match cs with
  | '-' :: rest => (true, true, rest)
  | '+' :: rest => (false, true, rest)
  | _ => (false, false, cs)

/-- Whether digits have no needless zero in front. -/
def isCanonical (ds : List Char) : Bool :=
  ds.length = 1 || ds.head? ≠ some '0'

/-- An integer. Other bases than ten take no sign. -/
def integer? (cs : List Char) : Option Toml :=
  let (negative, signed, rest) := sign cs
  let based (base : Nat) (ds : List Char) : Option Toml :=
    if signed then none
    else (digits? base ds).bind fun ds =>
      if inRange (valueIn base ds) then some (.integer (valueIn base ds)) else none
  match rest with
  | '0' :: 'x' :: ds => based 16 ds
  | '0' :: 'o' :: ds => based 8 ds
  | '0' :: 'b' :: ds => based 2 ds
  | _ =>
    (digits? 10 rest).bind fun ds =>
      let i : Int := if negative then -(valueIn 10 ds : Int) else valueIn 10 ds
      if isCanonical ds && inRange i then some (.integer i) else none

def splitBefore (p : Char → Bool) (cs : List Char) : List Char × List Char :=
  (cs.takeWhile fun c => !p c, cs.dropWhile fun c => !p c)

/-- A float: a whole part with a fraction, an exponent or both, or one of the two special words. A number that
rounds to infinity is refused. -/
def float? (cs : List Char) : Option Toml :=
  let (_, _, rest) := sign cs
  if rest = ['i', 'n', 'f'] ∨ rest = ['n', 'a', 'n'] then some .float
  else
    let isMark (c : Char) : Bool := c = 'e' || c = 'E'
    let (mantissa, marked) := splitBefore isMark rest
    let (whole, pointed) := splitBefore (· = '.') mantissa
    let exponent : Option Int :=
      match marked with
      | [] => some 0
      | _ :: digits =>
        let (down, _, digits) := sign digits
        (digits? 10 digits).map fun ds => if down then -(valueIn 10 ds : Int) else valueIn 10 ds
    let fraction : Option (List Char) :=
      match pointed with
      | [] => some []
      | _ :: digits => digits? 10 digits
    match digits? 10 whole, fraction, exponent with
    | some whole, some fraction, some exponent =>
      if (pointed.isEmpty && marked.isEmpty) || !isCanonical whole then none
      else
        (Json.Binary64.ofDecimal (whole ++ fraction) (exponent - fraction.length)).map fun _ => .float
    | _, _, _ => none

/-- A number of exactly so many digits in front, and the rest. -/
def fixed? (count : Nat) (cs : List Char) : Option (Nat × List Char) :=
  let ds := cs.take count
  if ds.length = count ∧ ds.all Decimal.isDigit then some (Decimal.value ds, cs.drop count) else none

def isLeapYear (y : Nat) : Bool :=
  y % 4 = 0 && (y % 100 ≠ 0 || y % 400 = 0)

def daysIn (year month : Nat) : Nat :=
  if month = 2 then if isLeapYear year then 29 else 28
  else if month = 4 ∨ month = 6 ∨ month = 9 ∨ month = 11 then 30
  else 31

def afterDate? (cs : List Char) : Option (List Char) :=
  match fixed? 4 cs with
  | some (year, '-' :: rest) =>
    match fixed? 2 rest with
    | some (month, '-' :: rest) =>
      match fixed? 2 rest with
      | some (day, rest) =>
        if 1 ≤ month && month ≤ 12 && 1 ≤ day && day ≤ daysIn year month then some rest else none
      | none => none
    | _ => none
  | _ => none

/-- What is left behind a time of day in front. Seconds may be left out. -/
def afterTime? (cs : List Char) : Option (List Char) :=
  match fixed? 2 cs with
  | some (hour, ':' :: rest) =>
    match fixed? 2 rest with
    | some (minute, rest) =>
      if hour < 24 ∧ minute < 60 then
        match rest with
        | ':' :: rest =>
          match fixed? 2 rest with
          | some (second, rest) =>
            if second ≤ 60 then
              match rest with
              | '.' :: fraction =>
                let ds := fraction.takeWhile Decimal.isDigit
                if ds = [] then none else some (fraction.drop ds.length)
              | _ => some rest
            else none
          | none => none
        | _ => some rest
      else none
    | none => none
  | _ => none

def isOffset (cs : List Char) : Bool :=
  match cs with
  | ['Z'] | ['z'] => true
  | '+' :: rest | '-' :: rest =>
    match fixed? 2 rest with
    | some (hour, ':' :: rest) =>
      match fixed? 2 rest with
      | some (minute, []) => hour < 24 && minute < 60
      | _ => false
    | _ => false
  | _ => false

/-- A date, a time of day, or both with or without an offset. -/
def date? (cs : List Char) : Option Toml :=
  match afterDate? cs with
  | some [] => some .date
  | some (mark :: rest) =>
    if mark = 'T' ∨ mark = 't' ∨ mark = ' ' then
      match afterTime? rest with
      | some rest => if rest = [] || isOffset rest then some .date else none
      | none => none
    else none
  | none => if afterTime? cs = some [] then some .date else none

def scalar? (cs : List Char) : Option Toml :=
  if cs = ['t', 'r', 'u', 'e'] then some (.bool true)
  else if cs = ['f', 'a', 'l', 's', 'e'] then some (.bool false)
  else
    match integer? cs with
    | some v => some v
    | none =>
      match float? cs with
      | some v => some v
      | none => date? cs

end LspClient.Config.Toml
