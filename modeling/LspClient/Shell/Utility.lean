import LspClient.Shell.State

/-!
# Commands without control flow

The commands that scripts use to print, to read and to compare, each as one step.
-/

namespace LspClient.Shell

/-- The numeral of an integer in front of a text, or none. -/
def integer? (s : Str) : Option Int :=
  match s with
  | '-' :: rest => (Decimal.value? rest).map fun n => -(n : Int)
  | '+' :: rest => (Decimal.value? rest).map fun n => (n : Int)
  | _ => (Decimal.value? s).map fun n => (n : Int)

def integerText (i : Int) : Str :=
  (Decimal.renderInt i).toList

def basedValue? (base : Nat) (s : Str) : Option Int :=
  let digit? (c : Char) : Option Nat :=
    let n := c.toNat
    let d := if n ≤ 57 then n - 48 else if n ≤ 70 then n - 55 else n - 87
    if 48 ≤ n ∧ d < base then some d else none
  if s = [] then none
  else (s.mapM digit?).map fun ds => ((ds.foldl (fun n d => base * n + d) 0 : Nat) : Int)

/-- The value of up to `most` octal digits in front, and what follows them. -/
def octal (most : Nat) (s : Str) : Option (Nat × Str) :=
  let digits := (s.take most).takeWhile fun c => 48 ≤ c.toNat && c.toNat ≤ 55
  if digits = [] then none
  else some (digits.foldl (fun n c => 8 * n + (c.toNat - 48)) 0, s.drop digits.length)

/-- The value of a number as printing takes it: decimal, hexadecimal, octal, or the code of a quoted character. -/
def printedNumber? (s : Str) : Option Int :=
  match s with
  | '\x27' :: c :: _ | '\x22' :: c :: _ => some c.toNat
  | '0' :: 'x' :: rest | '0' :: 'X' :: rest => basedValue? 16 rest
  | '0' :: d :: rest => basedValue? 8 (d :: rest)
  | _ => integer? s

def escapeChar? (c : Char) : Option Char :=
  if c = 'n' then some '\n'
  else if c = 't' then some '\t'
  else if c = 'r' then some '\r'
  else if c = 'a' then some '\x07'
  else if c = 'b' then some '\x08'
  else if c = 'f' then some '\x0c'
  else if c = 'v' then some '\x0b'
  else if c = '\\' then some '\\'
  else none

/-- Replaces escapes as printing does with plain text; the flag says that an escape ended the output. -/
def unescape : Nat → Str → Str → Str × Bool
  | 0, done, _ => (done.reverse, false)
  | fuel + 1, done, s =>
    match s with
    | [] => (done.reverse, false)
    | '\\' :: 'c' :: _ => (done.reverse, true)
    | '\\' :: '0' :: rest =>
      match octal 3 rest with
      | some (n, rest) => unescape fuel (Char.ofNat (n % 256) :: done) rest
      | none => unescape fuel ('\x00' :: done) rest
    | '\\' :: c :: rest =>
      match escapeChar? c, octal 3 (c :: rest) with
      | some d, _ => unescape fuel (d :: done) rest
      | none, some (n, rest) => unescape fuel (Char.ofNat (n % 256) :: done) rest
      | none, none => unescape fuel (c :: '\\' :: done) rest
    | c :: rest => unescape fuel (c :: done) rest

def pad (width : Nat) (left zero : Bool) (s : Str) : Str :=
  let missing := width - s.length
  if left then s ++ List.replicate missing ' '
  else if zero then
    match s with
    | '-' :: rest => '-' :: (List.replicate missing '0' ++ rest)
    | _ => List.replicate missing '0' ++ s
  else List.replicate missing ' ' ++ s

/-- A number with letters as higher digits. -/
def inBase (base : Nat) (n : Nat) : Str :=
  Nat.toDigits base n

/-- One pass through a format: the text, the arguments left, and whether printing is over. -/
def formatPass : Nat → Str → Str → List Str → Str × List Str × Bool
  | 0, done, _, args => (done.reverse, args, false)
  | fuel + 1, done, format, args =>
    match format with
    | [] => (done.reverse, args, false)
    | '\\' :: c :: rest =>
      match escapeChar? c with
      | some d => formatPass fuel (d :: done) rest args
      | none =>
        match octal 3 (c :: rest) with
        | some (n, rest) => formatPass fuel (Char.ofNat (n % 256) :: done) rest args
        | none =>
          if c = '\x22' ∨ c = '\x27' then formatPass fuel (c :: done) rest args
          else formatPass fuel (c :: '\\' :: done) rest args
    | '%' :: '%' :: rest => formatPass fuel ('%' :: done) rest args
    | '%' :: rest =>
      let flags := rest.takeWhile fun c => c = '-' || c = '0' || c = '+' || c = ' ' || c = '#'
      let rest := rest.drop flags.length
      let width := rest.takeWhile isDigit
      let rest := rest.drop width.length
      let (precision, rest) := match rest with
        | '.' :: more =>
          let digits := more.takeWhile isDigit
          (some (Decimal.value digits), more.drop digits.length)
        | _ => (none, rest)
      let fill := pad (Decimal.value width) (flags.contains '-') (flags.contains '0')
      let arg := args.headD []
      let number := (printedNumber? arg).getD 0
      match rest with
      | [] => (done.reverse, args, true)
      | c :: rest =>
        if c = 's' then
          let text := match precision with
            | some n => arg.take n
            | none => arg
          formatPass fuel ((fill text).reverse ++ done) rest args.tail
        else if c = 'b' then
          let (text, ended) := unescape (arg.length + 1) [] arg
          if ended then ((text.reverse ++ done).reverse, args.tail, true)
          else formatPass fuel ((fill text).reverse ++ done) rest args.tail
        else if c = 'c' then formatPass fuel ((fill (arg.take 1)).reverse ++ done) rest args.tail
        else if c = 'd' ∨ c = 'i' ∨ c = 'u' then
          let sign := if number < 0 then [] else if flags.contains '+' then ['+']
            else if flags.contains ' ' then [' '] else []
          formatPass fuel ((fill (sign ++ integerText number)).reverse ++ done) rest args.tail
        else if c = 'x' then formatPass fuel ((fill (inBase 16 number.toNat)).reverse ++ done) rest args.tail
        else if c = 'X' then
          let digits := (inBase 16 number.toNat).map Char.toUpper
          formatPass fuel ((fill digits).reverse ++ done) rest args.tail
        else if c = 'o' then formatPass fuel ((fill (inBase 8 number.toNat)).reverse ++ done) rest args.tail
        else (done.reverse, args, true)
    | c :: rest => formatPass fuel (c :: done) rest args

/-- Goes through a format again while arguments are left. -/
def formatAll : Nat → Str → List Str → Str
  | 0, _, _ => []
  | fuel + 1, format, args =>
    let (text, left, ended) := formatPass (format.length + 1) [] format args
    if ended || left.isEmpty || left.length = args.length then text
    else text ++ formatAll fuel format left

/-- Splits off the first line; a backslash takes its meaning from the next character unless the line is
raw. -/
def takeLine (raw : Bool) (done : Str) : Str → Option (Str × Str)
  | [] => none
  | c :: rest =>
    if c = '\n' then some (done.reverse, rest)
    else if c = '\\' && !raw then
      match rest with
      | [] => none
      | d :: rest => takeLine raw (if d = '\n' then done else d :: done) rest
    else takeLine raw (c :: done) rest

def isBlankSeparator (separators : Str) (c : Char) : Bool :=
  separators.contains c && (c = ' ' || c = '\t' || c = '\n')

/-- Spreads a line over variables; the last one takes all that is left. -/
def spread (separators : Str) : List Str → Str → List (Str × Str)
  | [], _ => []
  | [name], line =>
    let front := line.dropWhile (isBlankSeparator separators)
    [(name, (front.reverse.dropWhile (isBlankSeparator separators)).reverse)]
  | name :: names, line =>
    let front := line.dropWhile (isBlankSeparator separators)
    let value := front.takeWhile fun c => !separators.contains c
    let rest := (front.drop value.length).dropWhile (isBlankSeparator separators)
    let rest := match rest with
      | c :: more => if separators.contains c then more else rest
      | [] => []
    (name, value) :: spread separators names rest

def readLine (args : List Str) : Run Unit := do
  let raw := args.contains ['-', 'r']
  let names := args.filter fun a => a.head? ≠ some '-'
  let names := if names.isEmpty then ["REPLY".toList] else names
  let s ← get
  let store (line : Str) (s : State) : State :=
    (spread s.separators names line).foldl (fun s v => s.set v.1 v.2) s
  match takeLine raw [] s.input with
  | some (line, rest) => set { store line { s with input := rest } with status := 0 }
  | none =>
    if s.inputEnded then set { store s.input { s with input := [] } with status := 1 }
    else throw (.wait .input)

def holdsUnary (s : State) (op : String) (a : Str) : Bool :=
  let node : Option Node := match s.tree.lookup s.cwd (Str.toBytes a) with
    | .ok found => some found.2
    | .error _ => none
  match op with
  | "-n" => !a.isEmpty
  | "-z" => a.isEmpty
  | "-e" => node.isSome
  | "-d" => node == some .directory
  | "-f" => match node with
    | some (.file _ _) => true
    | _ => false
  | "-s" => match node with
    | some (.file content _) => !content.isEmpty
    | _ => false
  | "-r" | "-w" => node.isSome
  | "-x" => match node with
    | some (.file _ executable) => executable
    | some .directory => true
    | none => false
  | _ => false

def holdsBinary (op : String) (a b : Str) : Option Bool :=
  let x := (integer? a).getD 0
  let y := (integer? b).getD 0
  match op with
  | "=" => some (a == b)
  | "!=" => some (a != b)
  | "-eq" => some (x == y)
  | "-ne" => some (x != y)
  | "-lt" => some (x < y)
  | "-le" => some (x ≤ y)
  | "-gt" => some (y < x)
  | "-ge" => some (y ≤ x)
  | _ => none

def holds (s : State) : Nat → List Str → Bool
  | 0, _ => false
  | fuel + 1, args =>
    match args with
    | [] => false
    | [a] => !a.isEmpty
    | [a, b] => if a = ['!'] then b.isEmpty else holdsUnary s (String.ofList a) b
    | a :: op :: b :: rest =>
      match holdsBinary (String.ofList op) a b, rest with
      | some r, [] => r
      | some r, ['-', 'a'] :: more => r && holds s fuel more
      | some r, ['-', 'o'] :: more => r || holds s fuel more
      | some _, _ => false
      | none, _ =>
        if a = ['!'] then !holds s fuel (op :: b :: rest)
        else
          let r := holdsUnary s (String.ofList a) op
          if b = ['-', 'a'] then r && holds s fuel rest
          else if b = ['-', 'o'] then r || holds s fuel rest
          else false

def charRange (first last : Nat) : Str :=
  (List.range (last + 1 - first)).map fun i => Char.ofNat (first + i)

/-- The classes of characters that have names. -/
def charClass? (name : String) : Option Str :=
  match name with
  | "upper" => some (charRange 65 90)
  | "lower" => some (charRange 97 122)
  | "digit" => some (charRange 48 57)
  | "alpha" => some (charRange 65 90 ++ charRange 97 122)
  | "alnum" => some (charRange 48 57 ++ charRange 65 90 ++ charRange 97 122)
  | "space" => some (charRange 9 13 ++ [' '])
  | "blank" => some ['\t', ' ']
  | "cntrl" => some (charRange 0 31 ++ charRange 127 127)
  | _ => none

/-- The ranges and classes of a set of characters are written out. -/
def charSet : Nat → Str → Str
  | 0, s => s
  | fuel + 1, s =>
    match s with
    | '[' :: ':' :: rest =>
      let name := rest.takeWhile isNameChar
      match charClass? (String.ofList name), rest.drop name.length with
      | some chars, ':' :: ']' :: rest => chars ++ charSet fuel rest
      | _, _ => '[' :: charSet fuel (':' :: rest)
    | '\\' :: c :: rest =>
      match escapeChar? c with
      | some d => d :: charSet fuel rest
      | none =>
        match octal 3 (c :: rest) with
        | some (n, rest) => Char.ofNat (n % 256) :: charSet fuel rest
        | none => c :: charSet fuel rest
    | a :: '-' :: b :: rest =>
      charRange a.toNat b.toNat ++ charSet fuel rest
    | c :: rest => c :: charSet fuel rest
    | [] => []

/-- Passes the whole input through a function, as it comes. -/
def filterInput (f : Str → Str) : Run Unit := do
  let s ← get
  set { s with input := [] }
  emit (f s.input)
  if s.inputEnded then finish 0 else throw (.wait .input)

def concatenate (args : List Str) : Run Unit := do
  let names := args.filter fun a => a = ['-'] || a.head? ≠ some '-'
  if names.isEmpty then filterInput id
  else
    finish 0
    for name in names do
      if name = ['-'] then filterInput id
      else
        let s ← get
        match s.tree.read s.cwd (Str.toBytes name) with
        | .ok content => emit (Str.ofBytes content)
        | .error e =>
          set { (s.write s.errors ("cat: ".toList ++ name ++ (": " ++ e.words ++ "\n").toList)) with status := 1 }

/-- The value of an operand such as `count=5`. -/
def operand? (key : String) (args : List Str) : Option Str :=
  let front := key.toList ++ ['=']
  (args.find? fun a => front.isPrefixOf a).map fun a => a.drop front.length

def copyBlocks (args : List Str) : Run Unit := do
  let size := ((operand? "bs" args).bind Decimal.value?).getD 512
  let count := (operand? "count" args).bind Decimal.value?
  let s ← get
  let wanted := match count with
    | some n => if size * n ≤ s.input.length then some (size * n) else none
    | none => none
  let report (n : Nat) : Run Unit :=
    modify fun s => s.write s.errors
      (Decimal.render (n / size) ++ "+" ++ Decimal.render (if n % size = 0 then 0 else 1) ++ " records in\n"
        ++ Decimal.render (n / size) ++ "+" ++ Decimal.render (if n % size = 0 then 0 else 1)
        ++ " records out\n" ++ Decimal.render n ++ " bytes copied\n").toList
  let report (n : Nat) : Run Unit :=
    if operand? "status" args = some "none".toList then pure () else report n
  match wanted with
  | some n =>
    set { s with input := s.input.drop n }
    emit (s.input.take n)
    report n
    finish 0
  | none =>
    if s.inputEnded then
      set { s with input := [] }
      emit s.input
      report s.input.length
      finish 0
    else throw (.wait .input)

/-- Drops a character of a set that stands behind itself. -/
def squeeze (among : Char → Bool) : Str → Str
  | a :: b :: rest => if a = b && among a then squeeze among (b :: rest) else a :: squeeze among (b :: rest)
  | s => s

/-- Deletes or replaces characters of the input, or drops repeated ones. -/
def replaceChars (args : List Str) : Run Unit :=
  let isOption (a : Str) : Bool := a.head? = some '-' && a.length > 1
  let options := (args.takeWhile isOption).flatMap List.tail
  let sets := (args.dropWhile isOption).map fun a => charSet (a.length + 1) a
  let isIn (set : Str) (c : Char) : Bool := set.contains c != (options.contains 'c' || options.contains 'C')
  match options.contains 'd', options.contains 's', sets with
  | true, false, [set] => filterInput fun s => s.filter fun c => !isIn set c
  | true, true, [set, repeated] =>
    filterInput fun s => squeeze repeated.contains (s.filter fun c => !isIn set c)
  | false, true, [set] => filterInput (squeeze (isIn set))
  | false, repeats, [froms, tos] =>
    let replace (c : Char) : Char :=
      if options.contains 'c' || options.contains 'C' then
        if froms.contains c then c else tos.getLastD c
      else
        match froms.findIdx? (· = c) with
        | some i => (tos[i]?).getD (tos.getLastD c)
        | none => c
    filterInput fun s => (if repeats then squeeze tos.contains else id) (s.map replace)
  | _, _, _ => do
    complain "tr: bad operands"
    finish 1

def copyHead (args : List Str) : Run Unit := do
  let s ← get
  let take (n : Nat) : Run Unit := do
    set { s with input := s.input.drop n }
    emit (s.input.take n)
    finish 0
  match args with
  | ['-', 'c'] :: n :: _ =>
    let n := (Decimal.value? n).getD 0
    if n ≤ s.input.length || s.inputEnded then take n else throw (.wait .input)
  | _ =>
    let count := match args with
      | ['-', 'n'] :: n :: _ => (Decimal.value? n).getD 10
      | ('-' :: n) :: _ => (Decimal.value? n).getD 10
      | _ => 10
    let rec lines : Nat → Nat → Str → Option Nat
      | 0, length, _ => some length
      | n + 1, length, rest =>
        match takeLine true [] rest with
        | some (line, rest) => lines n (length + line.length + 1) rest
        | none => none
    match lines count 0 s.input with
    | some n => take n
    | none => if s.inputEnded then take s.input.length else throw (.wait .input)

/-- A time with up to three places and perhaps a unit, in milliseconds. -/
def milliseconds? (s : Str) : Option Nat :=
  let whole := s.takeWhile isDigit
  let (places, unit) := match s.drop whole.length with
    | '.' :: rest =>
      let places := rest.takeWhile isDigit
      (places, rest.drop places.length)
    | rest => ([], rest)
  let three := (places ++ ['0', '0', '0']).take 3
  let seconds? : Option Nat := match unit with
    | [] | ['s'] => some 1
    | ['m'] => some 60
    | ['h'] => some 3600
    | ['d'] => some 86400
    | _ => none
  if whole = [] ∧ places = [] then none
  else seconds?.map fun n => n * (Decimal.value whole * 1000 + Decimal.value three)

def sleep (args : List Str) : Run Unit := do
  let s ← get
  let fail (text : String) : Run Unit := do
    modify fun s => s.write s.errors ("sleep: " ++ text ++ "\nTry 'sleep --help' for more information.\n").toList
    finish 1
  match args with
  | [] => fail "missing operand"
  | arg :: _ =>
    if arg = "infinity".toList ∨ arg = "inf".toList then throw (.wait .busy)
    else
      match milliseconds? arg with
      | none => fail ("invalid time interval '" ++ String.ofList arg ++ "'")
      | some time =>
        if time ≤ s.patience then set { s with patience := s.patience - time, status := 0 }
        else throw (.wait (.sleep (time - s.patience)))

def countInput (args : List Str) : Run Unit := do
  let s ← get
  if !s.inputEnded then throw (.wait .input)
  else do
    let count := if args.contains ['-', 'l'] then (s.input.filter (· = '\n')).length else s.input.length
    set { s with input := [] }
    emit (Decimal.digits count ++ ['\n'])
    finish 0

/-- The last component of a path, without a given ending. -/
def baseName (args : List Str) : Str :=
  let path := args.headD []
  let trimmed := (path.reverse.dropWhile (· = '/')).reverse
  let last := if trimmed = [] ∧ path ≠ [] then ['/'] else (trimmed.reverse.takeWhile (· ≠ '/')).reverse
  match args with
  | [_, ending] =>
    if ending ≠ last ∧ ending.isSuffixOf last then last.take (last.length - ending.length) else last
  | _ => last

def directoryName (args : List Str) : Str :=
  let trimmed := ((args.headD []).reverse.dropWhile (· = '/'))
  let front := (trimmed.dropWhile (· ≠ '/')).dropWhile (· = '/')
  if front ≠ [] then front.reverse
  else if (args.headD []).head? = some '/' then ['/'] else ['.']

def echo (args : List Str) : Run Unit := do
  let (newline, words) := match args with
    | ['-', 'n'] :: rest => (false, rest)
    | _ => (true, args)
  let text := [' '].intercalate words
  let (text, ended) := unescape (text.length + 1) [] text
  emit (if newline && !ended then text ++ ['\n'] else text)
  finish 0

def changeDirectory (args : List Str) : Run Unit := do
  let s ← get
  let target := args.headD ((s.value? "HOME".toList).getD [])
  match s.tree.lookup s.cwd (Str.toBytes target) with
  | .ok (l, .directory) =>
    set { ({ s with cwd := l }.set "PWD".toList (Str.ofBytes l.path)) with status := 0 }
  | _ =>
    complain ("cd: can't cd to " ++ String.ofList target)
    finish 2

/-- Marks variables for the environment, giving them values if so said. -/
def exportAll (args : List Str) : Run Unit := do
  for a in args do
    let name := a.takeWhile (· ≠ '=')
    if name.length < a.length then modify fun s => s.set name (a.drop (name.length + 1))
  finish 0

/-- Makes variables the current function's own, giving them values if so said. -/
def makeLocal (args : List Str) : Run Unit := do
  for a in args do modify fun s => s.shadow (a.takeWhile (· ≠ '='))
  exportAll args

/-- Sets the arguments; options of the shell itself change nothing. -/
def setArguments (args : List Str) : Run Unit := do
  let isOption (a : Str) : Bool := (a.head? = some '-' || a.head? = some '+') && a ≠ ['-', '-']
  match args.dropWhile isOption with
  | [] => finish 0
  | first :: rest =>
    let arguments := if first = ['-', '-'] then rest else first :: rest
    modify fun s => { s with arguments := arguments, status := 0 }

def make (directories : Bool) (args : List Str) : Run Unit := do
  finish 0
  for name in args.filter (fun a => a.head? ≠ some '-') do
    let s ← get
    let made := if directories then s.tree.createDirectories s.cwd (Str.toBytes name)
      else s.tree.append s.cwd (Str.toBytes name) []
    match made with
    | .ok tree => set { s with tree := tree }
    | .error _ => finish 1

/-- The commands that the shell has itself. -/
def builtin? (name : String) (args : List Str) : Option (Run Unit) :=
  match name with
  | "set" => some (setArguments args)
  | ":" | "true" | "trap" | "umask" | "wait" | "hash" | "ulimit" | "times" => some (finish 0)
  | "false" => some (finish 1)
  | "echo" => some (echo args)
  | "printf" =>
    some do
      match if args.head? = some ['-', '-'] then args.tail else args with
      | [] => complain "printf: usage: printf format [arg ...]"; finish 2
      | format :: rest => emit (formatAll (rest.length + 1) format rest); finish 0
  | "read" => some (readLine args)
  | "test" =>
    some do
      let s ← get
      finish (if holds s (args.length + 1) args then 0 else 1)
  | "[" =>
    some do
      let s ← get
      if args.getLast? = some [']'] then
        finish (if holds s (args.length + 1) args.dropLast then 0 else 1)
      else
        complain "[: missing ]"
        finish 2
  | "cd" => some (changeDirectory args)
  | "pwd" => some do emit (Str.ofBytes (← get).cwd.path ++ ['\n']); finish 0
  | "export" | "readonly" => some (exportAll args)
  | "local" => some (makeLocal args)
  | "unset" =>
    some do
      for a in args do modify fun s => s.unset a
      finish 0
  | "shift" =>
    some do
      let n := ((args.head?).bind Decimal.value?).getD 1
      modify fun s => { s with arguments := s.arguments.drop n, status := 0 }
  | "exit" =>
    some do
      let s ← get
      set { s with status := ((args.head?).bind Decimal.value?).getD s.status % 256 }
      throw .exit
  | "return" =>
    some do
      let s ← get
      set { s with status := ((args.head?).bind Decimal.value?).getD s.status % 256 }
      throw .back
  | "break" => some (throw (.leave (((args.head?).bind Decimal.value?).getD 1)))
  | "continue" => some (throw (.again (((args.head?).bind Decimal.value?).getD 1)))
  | "kill" =>
    some do
      let s ← get
      if args.contains ['-', '0'] then finish (if args.contains s.process then 0 else 1)
      else if args.contains s.process then
        finish 143
        throw .exit
      else finish 1
  | _ => none

/-- The commands that are programs of the system. -/
def utility? (name : String) (args : List Str) : Option (Run Unit) :=
  match name with
  | "cat" => some (concatenate args)
  | "dd" => some (copyBlocks args)
  | "tr" => some (replaceChars args)
  | "head" => some (copyHead args)
  | "sleep" => some (sleep args)
  | "wc" => some (countInput args)
  | "basename" => some do emit (baseName args ++ ['\n']); finish 0
  | "dirname" => some do emit (directoryName args ++ ['\n']); finish 0
  | "mkdir" => some (make true args)
  | "touch" => some (make false args)
  | "printenv" =>
    some do
      let s ← get
      match args.head?.bind s.value? with
      | some v => emit (v ++ ['\n']); finish 0
      | none => finish 1
  | "true" | "false" | "echo" | "printf" | "test" | "[" | "pwd" => builtin? name args
  | _ => none

def utilityNames : List String :=
  ["cat", "dd", "tr", "head", "sleep", "wc", "basename", "dirname", "mkdir", "touch", "printenv", "true", "false",
    "echo", "printf", "test", "[", "pwd"]

end LspClient.Shell
