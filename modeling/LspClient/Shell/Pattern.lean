import LspClient.Shell.Word

/-!
# Patterns

The patterns of `case` and of cutting: a star matches anything, a question mark one character, brackets one
character of a set, and a quoted character itself.
-/

namespace LspClient.Shell

inductive Glob where
  | char (c : Char)
  | any
  | many
  /-- One of the ranges, or none of them. -/
  | oneOf (negated : Bool) (ranges : List (Char × Char))
deriving DecidableEq, Repr

/-- Reads the inside of brackets up to the closing one. -/
def ranges : Nat → List (Char × Char) → Str → Option (List (Char × Char) × Str)
  | 0, _, _ => none
  | fuel + 1, done, cs =>
    match cs with
    | [] => none
    | ']' :: rest => if done = [] then ranges fuel [(']', ']')] rest else some (done.reverse, rest)
    | a :: '-' :: b :: rest =>
      if b = ']' then ranges fuel (('-', '-') :: (a, a) :: done) (b :: rest)
      else ranges fuel ((a, b) :: done) rest
    | a :: rest => ranges fuel ((a, a) :: done) rest

/-- Reads the elements of a pattern that is not quoted. -/
def globs : Nat → Str → List Glob
  | 0, cs => cs.map .char
  | fuel + 1, cs =>
    match cs with
    | [] => []
    | '*' :: rest => .many :: globs fuel rest
    | '?' :: rest => .any :: globs fuel rest
    | '[' :: rest =>
      let (negated, inside) := match rest with
        | '!' :: inside => (true, inside)
        | _ => (false, rest)
      match ranges (inside.length + 1) [] inside with
      | some (set, rest) => .oneOf negated set :: globs fuel rest
      | none => .char '[' :: globs fuel rest
    | c :: rest => .char c :: globs fuel rest

def Glob.matchesChar : Glob → Char → Bool
  | .char d, c => c = d
  | .any, _ => true
  | .many, _ => true
  | .oneOf negated set, c =>
    let isIn := set.any fun r => r.1.toNat ≤ c.toNat && c.toNat ≤ r.2.toNat
    if negated then !isIn else isIn

/-- All rests that a pattern leaves of a text when it matches in front. -/
def rests : List Glob → Str → List Str
  | [], s => [s]
  | .many :: gs, s => (List.range (s.length + 1)).flatMap fun n => rests gs (s.drop n)
  | g :: gs, c :: s => if g.matchesChar c then rests gs s else []
  | _ :: _, [] => []

def matchesAll (gs : List Glob) (s : Str) : Bool :=
  (rests gs s).any List.isEmpty

/-- Cuts off what a pattern matches in front. -/
def trimFront (longest : Bool) (gs : List Glob) (s : Str) : Str :=
  let found := rests gs s
  let better (a b : Str) : Str :=
    if longest then if b.length < a.length then b else a else if a.length < b.length then b else a
  match found with
  | [] => s
  | r :: rest => rest.foldl better r

/-- Cuts off what a pattern matches behind. -/
def trimBack (longest : Bool) (gs : List Glob) (s : Str) : Str :=
  let found := ((List.range (s.length + 1)).map s.take).filter fun front => matchesAll gs (s.drop front.length)
  let better (a b : Str) : Str :=
    if longest then if b.length < a.length then b else a else if a.length < b.length then b else a
  match found with
  | [] => s
  | r :: rest => rest.foldl better r

end LspClient.Shell
