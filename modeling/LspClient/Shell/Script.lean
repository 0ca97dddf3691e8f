import LspClient.Decimal
import LspClient.Shell.Word

/-!
# Shell scripts

The commands of a script and how they are read: a script is cut into tokens, and the commands are read off
the tokens by descent.
-/

namespace LspClient.Shell

inductive RedirectKind where
  | input
  | output
  | append
  /-- The stream becomes a copy of another, or is closed. -/
  | copy
deriving DecidableEq, Repr

structure Redirect where
  stream : Nat
  kind : RedirectKind
  target : Word

inductive Command where
  | simple (assignments : List (Str × Word)) (words : List Word) (redirects : List Redirect)
  | pipeline (negated : Bool) (stages : List Command)
  | both (first second : Command)
  | either (first second : Command)
  | sequence (commands : List Command)
  /-- A loop that goes on while its condition succeeds, or until it does. -/
  | loop (untilDone : Bool) (condition body : Command)
  | branch (condition whenTrue whenFalse : Command)
  | each (name : Str) (words : Option (List Word)) (body : Command)
  | select (subject : Word) (clauses : List (List Word × Command))
  | define (name : Str) (body : Command)
  | subshell (body : Command)
  | redirected (body : Command) (redirects : List Redirect)
  | background (body : Command)

inductive Token where
  | word (w : Word)
  | mark (s : Str)
  | newline
  /-- The number of the stream that a redirection is for. -/
  | stream (n : Nat)

def mark? (cs : Str) : Option (Str × Str) :=
  match cs with
  | '&' :: '&' :: rest => some (['&', '&'], rest)
  | '|' :: '|' :: rest => some (['|', '|'], rest)
  | ';' :: ';' :: rest => some ([';', ';'], rest)
  | '>' :: '>' :: rest => some (['>', '>'], rest)
  | '>' :: '&' :: rest => some (['>', '&'], rest)
  | '<' :: '&' :: rest => some (['<', '&'], rest)
  | c :: rest =>
    if c = ';' ∨ c = '&' ∨ c = '|' ∨ c = '<' ∨ c = '>' ∨ c = '(' ∨ c = ')' then some ([c], rest) else none
  | [] => none

def tokens : Nat → List Token → Str → Option (List Token)
  | 0, _, _ => none
  | fuel + 1, done, cs =>
    match cs with
    | [] => some done.reverse
    | c :: rest =>
      if c = ' ' ∨ c = '\t' then tokens fuel done rest
      else if c = '\n' then tokens fuel (.newline :: done) rest
      else if c = '\\' ∧ rest.head? = some '\n' then tokens fuel done (rest.drop 1)
      else if c = '#' then tokens fuel done (rest.dropWhile (· ≠ '\n'))
      else
        match mark? cs with
        | some (m, rest) => tokens fuel (.mark m :: done) rest
        | none =>
          let digits := cs.takeWhile isDigit
          let behind := cs.drop digits.length
          if digits ≠ [] ∧ (behind.head? = some '<' ∨ behind.head? = some '>') then
            tokens fuel (.stream (Decimal.value digits) :: done) behind
          else
            match word? cs with
            | some (w, rest) => tokens fuel (.word w :: done) rest
            | none => none

def Token.bare? : Token → Option Str
  | .word w => bareText? w
  | _ => none

def isWord (s : String) (t : Token) : Bool :=
  t.bare? == some s.toList

def isMark (s : String) : Token → Bool
  | .mark m => m == s.toList
  | _ => false

/-- Words that end a list of commands. -/
def closingWords : List String :=
  ["then", "elif", "else", "fi", "do", "done", "esac", "\x7d"]

def endsList (t : Token) : Bool :=
  closingWords.any (isWord · t) || isMark ")" t || isMark ";;" t

def skipNewlines : List Token → List Token
  | .newline :: rest => skipNewlines rest
  | ts => ts

/-- Skips what may stand between two commands. -/
def skipSeparators : List Token → List Token
  | .newline :: rest => skipSeparators rest
  | .mark [';'] :: rest => skipSeparators rest
  | ts => ts

/-- Name and value of a word that assigns. -/
def assignment? (w : Word) : Option (Str × Word) :=
  match w with
  | .text false s :: rest =>
    let name := s.takeWhile isNameChar
    match name, s.drop name.length with
    | c :: _, '=' :: value =>
      if isNameStart c then some (name, if value = [] then rest else .text false value :: rest) else none
    | _, _ => none
  | _ => none

def redirect? (ts : List Token) : Option (Redirect × List Token) :=
  let (stream, ts) := match ts with
    | .stream n :: rest => (some n, rest)
    | _ => (none, ts)
  match ts with
  | .mark m :: .word w :: rest =>
    if m = ['<'] then some (⟨stream.getD 0, .input, w⟩, rest)
    else if m = ['>'] then some (⟨stream.getD 1, .output, w⟩, rest)
    else if m = ['>', '>'] then some (⟨stream.getD 1, .append, w⟩, rest)
    else if m = ['>', '&'] then some (⟨stream.getD 1, .copy, w⟩, rest)
    else if m = ['<', '&'] then some (⟨stream.getD 0, .copy, w⟩, rest)
    else none
  | _ => none

def redirects : Nat → List Redirect → List Token → List Redirect × List Token
  | 0, done, ts => (done.reverse, ts)
  | fuel + 1, done, ts =>
    match redirect? ts with
    | some (r, rest) => redirects fuel (r :: done) rest
    | none => (done.reverse, ts)

/-- Reads the words, assignments and redirections of a simple command. -/
def simple : Nat → List (Str × Word) → List Word → List Redirect → List Token →
    Option (Command × List Token)
  | 0, _, _, _, _ => none
  | fuel + 1, assignments, words, found, ts =>
    match redirect? ts with
    | some (r, rest) => simple fuel assignments words (r :: found) rest
    | none =>
      match ts with
      | .word w :: rest =>
        match words, assignment? w with
        | [], some a => simple fuel (a :: assignments) [] found rest
        | _, _ => simple fuel assignments (w :: words) found rest
      | _ =>
        if assignments.isEmpty && words.isEmpty && found.isEmpty then none
        else some (.simple assignments.reverse words.reverse found.reverse, ts)

def plainWords : List Word → List Token → List Word × List Token
  | done, .word w :: rest => plainWords (w :: done) rest
  | done, ts => (done.reverse, ts)

/-- Reads the patterns of a clause up to the bracket behind them. -/
def patterns : Nat → List Word → List Token → Option (List Word × List Token)
  | 0, _, _ => none
  | fuel + 1, done, ts =>
    match ts with
    | .word w :: .mark ['|'] :: rest => patterns fuel (w :: done) rest
    | .word w :: .mark [')'] :: rest => some ((w :: done).reverse, rest)
    | _ => none

/-- Takes a word off the tokens if it comes next. -/
def expectWord (s : String) (ts : List Token) : Option (List Token) :=
  match ts with
  | t :: rest => if isWord s t then some rest else none
  | [] => none

mutual

/-- Reads commands up to a token that ends their list. -/
def list : Nat → List Command → List Token → Option (Command × List Token)
  | 0, _, _ => none
  | fuel + 1, done, ts =>
    match skipSeparators ts with
    | [] => some (.sequence done.reverse, [])
    | t :: rest =>
      if endsList t then some (.sequence done.reverse, t :: rest)
      else
        match andOr fuel (t :: rest) with
        | none => none
        | some (c, .mark ['&'] :: rest) => list fuel (.background c :: done) rest
        | some (c, rest) =>
          match rest with
          | [] => some (.sequence (c :: done).reverse, [])
          | t :: _ =>
            match t with
            | .newline | .mark [';'] => list fuel (c :: done) rest
            | _ => if endsList t then some (.sequence (c :: done).reverse, rest) else none

/-- Reads pipelines joined by their success or failure. -/
def andOr : Nat → List Token → Option (Command × List Token)
  | 0, _ => none
  | fuel + 1, ts =>
    match pipeline fuel ts with
    | none => none
    | some (c, rest) => andOrMore fuel c rest

def andOrMore : Nat → Command → List Token → Option (Command × List Token)
  | 0, _, _ => none
  | fuel + 1, first, ts =>
    match ts with
    | .mark ['&', '&'] :: rest =>
      match pipeline fuel (skipNewlines rest) with
      | some (c, rest) => andOrMore fuel (.both first c) rest
      | none => none
    | .mark ['|', '|'] :: rest =>
      match pipeline fuel (skipNewlines rest) with
      | some (c, rest) => andOrMore fuel (.either first c) rest
      | none => none
    | _ => some (first, ts)

/-- Reads commands joined by pipes. -/
def pipeline : Nat → List Token → Option (Command × List Token)
  | 0, _ => none
  | fuel + 1, ts =>
    let (negated, ts) := match ts with
      | t :: rest => if isWord "!" t then (true, rest) else (false, ts)
      | [] => (false, [])
    stages fuel negated [] ts

def stages : Nat → Bool → List Command → List Token → Option (Command × List Token)
  | 0, _, _, _ => none
  | fuel + 1, negated, done, ts =>
    match command fuel ts with
    | none => none
    | some (c, .mark ['|'] :: rest) => stages fuel negated (c :: done) (skipNewlines rest)
    | some (c, rest) =>
      match done, negated with
      | [], false => some (c, rest)
      | _, _ => some (.pipeline negated (c :: done).reverse, rest)

/-- Reads a compound command with its redirections, or a simple command. -/
def command : Nat → List Token → Option (Command × List Token)
  | 0, _ => none
  | fuel + 1, ts =>
    match ts with
    | .word w :: .mark ['('] :: .mark [')'] :: rest =>
      match bareText? w, command fuel (skipNewlines rest) with
      | some name, some (body, rest) => some (.define name body, rest)
      | _, _ => none
    | t :: rest =>
      let whole : Option (Option (Command × List Token)) :=
        if isMark "(" t then
          some (match list fuel [] rest with
            | some (body, .mark [')'] :: rest) => some (.subshell body, rest)
            | _ => none)
        else if isWord "\x7b" t then
          some (match list fuel [] rest with
            | some (body, rest) => (expectWord "\x7d" rest).map fun rest => (body, rest)
            | none => none)
        else if isWord "if" t then some (condition fuel rest)
        else if isWord "while" t then some (loop fuel false rest)
        else if isWord "until" t then some (loop fuel true rest)
        else if isWord "for" t then some (each fuel rest)
        else if isWord "case" t then some (select fuel rest)
        else none
      match whole with
      | some none => none
      | some (some (c, rest)) =>
        match redirects (rest.length + 1) [] rest with
        | ([], rest) => some (c, rest)
        | (rs, rest) => some (.redirected c rs, rest)
      | none => simple (ts.length + 1) [] [] [] ts
    | [] => none

/-- Reads a condition and its branches up to the end. -/
def condition : Nat → List Token → Option (Command × List Token)
  | 0, _ => none
  | fuel + 1, ts =>
    match list fuel [] ts with
    | none => none
    | some (test, rest) =>
      match (expectWord "then" rest).bind (list fuel []) with
      | none => none
      | some (whenTrue, t :: rest) =>
        if isWord "fi" t then some (.branch test whenTrue (.sequence []), rest)
        else if isWord "elif" t then
          (condition fuel rest).map fun r => (.branch test whenTrue r.1, r.2)
        else if isWord "else" t then
          match list fuel [] rest with
          | some (whenFalse, rest) =>
            (expectWord "fi" rest).map fun rest => (.branch test whenTrue whenFalse, rest)
          | none => none
        else none
      | some (_, []) => none

def loop : Nat → Bool → List Token → Option (Command × List Token)
  | 0, _, _ => none
  | fuel + 1, untilDone, ts =>
    match list fuel [] ts with
    | none => none
    | some (test, rest) =>
      match (expectWord "do" rest).bind (list fuel []) with
      | none => none
      | some (body, rest) => (expectWord "done" rest).map fun rest => (.loop untilDone test body, rest)

def each : Nat → List Token → Option (Command × List Token)
  | 0, _ => none
  | fuel + 1, ts =>
    match ts with
    | t :: rest =>
      match t.bare? with
      | none => none
      | some name =>
        let (words, rest) := match skipNewlines rest with
          | t :: more =>
            if isWord "in" t then
              let (ws, more) := plainWords [] more
              (some ws, more)
            else (none, rest)
          | [] => (none, rest)
        match (expectWord "do" (skipSeparators rest)).bind (list fuel []) with
        | none => none
        | some (body, rest) => (expectWord "done" rest).map fun rest => (.each name words body, rest)
    | [] => none

/-- Reads a choice by patterns behind its first word. -/
def select : Nat → List Token → Option (Command × List Token)
  | 0, _ => none
  | fuel + 1, ts =>
    match ts with
    | .word subject :: rest =>
      match (expectWord "in" (skipNewlines rest)).bind (clauses fuel []) with
      | some (found, rest) => some (.select subject found, rest)
      | none => none
    | _ => none

def clauses : Nat → List (List Word × Command) → List Token →
    Option (List (List Word × Command) × List Token)
  | 0, _, _ => none
  | fuel + 1, done, ts =>
    match skipNewlines ts with
    | [] => none
    | t :: rest =>
      if isWord "esac" t then some (done.reverse, rest)
      else
        let start := if isMark "(" t then rest else t :: rest
        match patterns (start.length + 1) [] start with
        | none => none
        | some (ps, rest) =>
          match list fuel [] rest with
          | some (body, .mark [';', ';'] :: rest) => clauses fuel ((ps, body) :: done) rest
          | some (body, rest) => clauses fuel ((ps, body) :: done) rest
          | none => none

end

def script? (cs : Str) : Option Command :=
  match tokens (cs.length + 1) [] cs with
  | none => none
  | some ts =>
    match list (8 * ts.length + 8) [] ts with
    | some (c, []) => some c
    | _ => none

end LspClient.Shell
