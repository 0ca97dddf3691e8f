import LspClient.Shell.Arithmetic
import LspClient.Shell.Pattern

/-!
# Running scripts

The evaluation of commands. Fuel bounds the depth of evaluation, loops included; a script that uses it up
counts as one that goes on for ever.
-/

namespace LspClient.Shell

open Child (Waiting)

/-- A piece of an expanded word. -/
inductive Piece where
  /-- Text that stays together. -/
  | fixed (s : Str)
  /-- Text that is split into fields. -/
  | loose (s : Str)
  /-- The end of a field. -/
  | gap

/-- Collects pieces into fields; `current` is the field being collected. -/
def collect (separators : Str) : Option Str → List Str → List Piece → List Str
  | none, done, [] => done.reverse
  | some field, done, [] => (field :: done).reverse
  | current, done, .fixed s :: rest => collect separators (some (current.getD [] ++ s)) done rest
  | none, done, .gap :: rest => collect separators none done rest
  | some field, done, .gap :: rest => collect separators none (field :: done) rest
  | current, done, .loose s :: rest =>
    let (current, done) := s.foldl
      (fun (at_ : Option Str × List Str) c =>
        if separators.contains c then
          match at_.1 with
          | some field => (none, field :: at_.2)
          | none => at_
        else (some (at_.1.getD [] ++ [c]), at_.2))
      (current, done)
    collect separators current done rest

def joinPieces (pieces : List Piece) : Str :=
  pieces.flatMap fun
    | .fixed s => s
    | .loose s => s
    | .gap => [' ']

def parameter? (s : State) (name : Str) : Option Str :=
  match name with
  | ['?'] => some (Decimal.digits s.status)
  | ['#'] => some (Decimal.digits s.arguments.length)
  | ['$'] => some s.process
  | ['@'] => some ([' '].intercalate s.arguments)
  | ['*'] => some ((s.separators.take 1).intercalate s.arguments)
  | ['!'] | ['-'] => some []
  | _ =>
    match Decimal.value? name with
    | some 0 => some s.name
    | some (n + 1) => s.arguments[n]?
    | none => s.value? name

def argumentPieces (s : State) : List Piece :=
  (s.arguments.map Piece.fixed).intersperse .gap

def dropFinalNewlines (s : Str) : Str :=
  (s.reverse.dropWhile (· = '\n')).reverse

/-- Runs a loop's body; the answer says whether the loop goes on. -/
def loopBody (body : Run Unit) : Run Bool :=
  fun s =>
    match body s with
    | (.ok (), t) => (.ok true, t)
    | (.error (.leave n), t) => if n ≤ 1 then (.ok false, t) else (.error (.leave (n - 1)), t)
    | (.error (.again n), t) => if n ≤ 1 then (.ok true, t) else (.error (.again (n - 1)), t)
    | (.error halt, t) => (.error halt, t)

/-- What stays of a state when a shell inside the shell ends. -/
def leaveSubshell (before after : State) : State :=
  let after := before.restoreSinks { after with
    assigned := before.assigned
    functions := before.functions
    arguments := before.arguments
    name := before.name
    cwd := before.cwd }
  if after.ownInput = before.ownInput then after else before.restoreInput after

/-- Runs commands in a shell of their own. -/
def subshell (body : Run Unit) : Run Unit :=
  fun s =>
    match body s with
    | (.error (.wait what), t) => (.error (.wait what), leaveSubshell s t)
    | (_, t) => (.ok (), leaveSubshell s t)

/-- Runs commands in a shell of their own and keeps what they print; they may end up waiting. -/
def capture (body : Run Unit) : Run (Str × Option Waiting) :=
  fun s =>
    let (result, t) := subshell body { s with captured := [], output := .capture }
    let after := { t with captured := s.captured, output := s.output }
    match result with
    | .error (.wait what) => (.ok (t.captured, some what), after)
    | _ => (.ok (t.captured, none), after)

def withInput (input : Str) (ended : Bool) (body : Run Unit) : Run Unit :=
  fun s =>
    let (result, t) := body { s with input := input, inputEnded := ended }
    (result, s.restoreInput t)

/-- Ends a call of a function. -/
def call (arguments : List Str) (body : Run Unit) : Run Unit :=
  fun s =>
    let (result, t) := body { s with arguments := arguments, shadowed := [] }
    let after := s.unshadow { t with arguments := s.arguments }
    match result with
    | .error .back => (.ok (), after)
    | result => (result, after)

/-- Splits bytes at every separator; `piece` holds the piece begun, last byte first. -/
def splitAt (separator : UInt8) (piece : Bytes) : Bytes → List Bytes
  | [] => [piece.reverse]
  | b :: rest =>
    if b = separator then piece.reverse :: splitAt separator [] rest else splitAt separator (b :: piece) rest

/-- The directories that commands are looked for in. -/
def searchPath (path : Option Bytes) : List Bytes :=
  match path with
  | some path => splitAt 0x3A [] path
  | none => [Bytes.ofString "/bin", Bytes.ofString "/usr/bin"]

def binaryMark : Bytes := [0x7F, 0x45, 0x4C, 0x46]

/-- The file that a command's name leads to. -/
def findCommand (s : State) (name : Str) : Option (Bytes × Bytes) :=
  let candidates :=
    if name.contains '/' then [s.absolute name]
    else
      let directories := searchPath ((s.value? "PATH".toList).map Str.toBytes)
      directories.map fun directory => Path.join directory name.toBytes
  candidates.findSome? fun path =>
    match s.tree.lookup s.cwd path with
    | .ok (_, .file content true) => some (path, content)
    | _ => none

def openFailure (target : Str) (e : OsError) : String :=
  "cannot open " ++ String.ofList target ++ ": "
    ++ if e = .notFound ∨ e = .notDirectory then "No such file" else e.words

def createFailure (target : Str) (e : OsError) : String :=
  "cannot create " ++ String.ofList target ++ ": "
    ++ if e = .notFound ∨ e = .notDirectory then "Directory nonexistent" else e.words

/-- Opens what a redirection asks for, or says why it cannot. -/
def openRedirect (s : State) (r : Redirect) (target : Str) : Except String State :=
  let put (sink : Sink) : State := s.setSink r.stream sink
  let path := s.absolute target
  let isNull := path = Bytes.ofString "/dev/null"
  match r.kind with
  | .copy =>
    if target = ['-'] then .ok (if r.stream = 0 then s.readFrom [] else put .closed)
    else
      match Decimal.value? target with
      | none => .error "Bad fd number"
      | some n =>
        if r.stream = 0 then .ok (if n = 0 then s else s.readFrom [])
        else if s.sink n = .closed then .error (Decimal.render n ++ ": Bad file descriptor")
        else .ok (put (s.sink n))
  | .input =>
    if isNull then .ok (s.readFrom [])
    else
      match s.tree.read [] path with
      | .ok content => .ok (s.readFrom (Str.ofBytes content))
      | .error e => .error (openFailure target e)
  | .output =>
    if isNull then .ok (put .discard)
    else if path = Bytes.ofString "/dev/stderr" then .ok (put s.errors)
    else if path = Bytes.ofString "/dev/stdout" then .ok (put s.output)
    else
      match s.tree.write [] path [] with
      | .ok tree => .ok { put (.file path) with tree := tree }
      | .error e => .error (createFailure target e)
  | .append =>
    if isNull then .ok (put .discard)
    else
      match s.tree.append [] path [] with
      | .ok tree => .ok { put (.file path) with tree := tree }
      | .error e => .error (createFailure target e)

/-- The commands that fail if their output is closed. -/
def printingNames : List String := ["echo", "printf", "pwd"]

/-- Whether the commands of a redirection list read another input. -/
def readsOther (rs : List Redirect) : Bool :=
  rs.any fun r => r.kind = .input || r.stream = 0

/-- What stays of a state when redirections end. -/
def leaveRedirects (rs : List Redirect) (before after : State) : State :=
  let after := before.restoreSinks after
  if readsOther rs then before.restoreInput after else after

mutual

def pieces : Nat → Word → Run (List Piece)
  | 0, _ => throw (.wait .busy)
  | fuel + 1, parts =>
    match parts with
    | [] => pure []
    | .text _ s :: rest => do
      let more ← pieces fuel rest
      pure (.fixed s :: more)
    | .arithmetic quoted text :: rest => do
      let text ← match quotedWord? text with
        | some inner => do pure (joinPieces (← pieces fuel inner))
        | none => pure text
      let s ← get
      let v := match arithmetic s text with
        | some x => integerText x
        | none => []
      let more ← pieces fuel rest
      pure ((if quoted then .fixed v else .loose v) :: more)
    | .command quoted text :: rest => do
      let (printed, waiting) ← capture (runText fuel text)
      match waiting with
      | some what => throw (.wait what)
      | none =>
        let v := dropFinalNewlines printed
        let more ← pieces fuel rest
        pure ((if quoted then .fixed v else .loose v) :: more)
    | .parameter quoted name op word :: rest => do
      let first ← parameterPieces fuel quoted name op word
      let more ← pieces fuel rest
      pure (first ++ more)

def parameterPieces : Nat → Bool → Str → Operator → Word → Run (List Piece)
  | 0, _, _, _, _ => throw (.wait .busy)
  | fuel + 1, quoted, name, op, word => do
    let s ← get
    let piece (v : Str) : List Piece := [if quoted then .fixed v else .loose v]
    let found := parameter? s name
    let counts (orEmpty : Bool) : Bool := match found with
      | some v => !(orEmpty && v.isEmpty)
      | none => false
    match op with
    | .plain => if quoted && name = ['@'] then pure (argumentPieces s) else pure (piece (found.getD []))
    | .length => pure (piece (Decimal.digits (found.getD []).length))
    | .trimFront longest => do
      let pattern ← patternOf fuel word
      pure (piece (trimFront longest pattern (found.getD [])))
    | .trimBack longest => do
      let pattern ← patternOf fuel word
      pure (piece (trimBack longest pattern (found.getD [])))
    | .fallback orEmpty => if counts orEmpty then pure (piece (found.getD [])) else pieces fuel word
    | .assign orEmpty =>
      if counts orEmpty then pure (piece (found.getD []))
      else do
        let v := joinPieces (← pieces fuel word)
        modify fun s => s.set name v
        pure (piece v)
    | .alternative orEmpty => if counts orEmpty then pieces fuel word else pure (piece [])

def patternOf : Nat → Word → Run (List Glob)
  | 0, _ => throw (.wait .busy)
  | fuel + 1, parts =>
    match parts with
    | [] => pure []
    | part :: rest => do
      let text ← match part with
        | .text _ s => pure s
        | part => do pure (joinPieces (← pieces fuel [part]))
      let quoted := match part with
        | .text q _ => q
        | .parameter q _ _ _ => q
        | .command q _ => q
        | .arithmetic q _ => q
      let more ← patternOf fuel rest
      pure ((if quoted then text.map .char else globs (text.length + 1) text) ++ more)

def fields : Nat → List Word → Run (List Str)
  | 0, _ => throw (.wait .busy)
  | fuel + 1, words =>
    match words with
    | [] => pure []
    | word :: rest => do
      let expanded ← pieces fuel word
      let s ← get
      let more ← fields fuel rest
      pure (collect s.separators none [] expanded ++ more)

/-- Opens redirections one after the other; the answer says whether all could be opened. -/
def openAll : Nat → List Redirect → Run Bool
  | 0, _ => throw (.wait .busy)
  | fuel + 1, rs =>
    match rs with
    | [] => pure true
    | r :: rest => do
      let target := joinPieces (← pieces fuel r.target)
      let s ← get
      match openRedirect s r target with
      | .ok t => do
        set t
        openAll fuel rest
      | .error reason => do
        complain reason
        finish 2
        pure false

def assignAll : Nat → List (Str × Word) → Run Unit
  | 0, _ => throw (.wait .busy)
  | fuel + 1, assignments =>
    match assignments with
    | [] => pure ()
    | (name, word) :: rest => do
      let v := joinPieces (← pieces fuel word)
      modify fun s => s.set name v
      assignAll fuel rest

def runText : Nat → Str → Run Unit
  | 0, _ => throw (.wait .busy)
  | fuel + 1, text =>
    match script? text with
    | some c => run fuel c
    | none => do
      complain "Syntax error"
      finish 2
      throw .exit

def runNamed : Nat → Str → List Str → Run Unit
  | 0, _, _ => throw (.wait .busy)
  | fuel + 1, name, args => do
    let s ← get
    match s.functions.lookup name with
    | some body => call args (run fuel body)
    | none =>
      if name = "eval".toList then runText fuel ([' '].intercalate args)
      else if name = "command".toList then
        match args with
        | [] => finish 0
        | inner :: args => runNamed fuel inner args
      else if name = "exec".toList then
        match args with
        | [] => finish 0
        | inner :: args => do
          runNamed fuel inner args
          throw .exit
      else
        match builtin? (String.ofList name) args with
        | some step => do
          step
          if printingNames.contains (String.ofList name) && s.output = .closed then do
            complain (String.ofList name ++ ": " ++ String.ofList name ++ ": I/O error")
            finish 1
        | none =>
          match findCommand s name with
          | none => do
            complain (String.ofList name ++ ": not found")
            finish 127
          | some (path, content) =>
            if binaryMark.isPrefixOf content then
              match utility? ((Path.lastComponent? path).getD []).display args with
              | some step => step
              | none => finish 126
            else
              subshell do
                modify fun s => { s with name := Str.ofBytes path, arguments := args }
                runText fuel (Str.ofBytes content)

/-- Runs the stages of a pipeline, each on what the one before prints. -/
def runStages : Nat → List Command → Run Unit
  | 0, _ => throw (.wait .busy)
  | fuel + 1, stages =>
    match stages with
    | [] => finish 0
    | [c] => subshell (run fuel c)
    | c :: rest => do
      let (printed, waiting) ← capture (run fuel c)
      match waiting with
      | none => withInput printed true (runStages fuel rest)
      | some what => do
        let s ← get
        let (_, t) := withInput printed false (runStages fuel rest) s
        set t
        throw (.wait what)

def runAll : Nat → List Command → Run Unit
  | 0, _ => throw (.wait .busy)
  | fuel + 1, commands =>
    match commands with
    | [] => pure ()
    | c :: rest => do
      run fuel c
      runAll fuel rest

/-- Runs a loop; `last` is the status that it ends with. -/
def runLoop : Nat → Bool → Command → Command → Nat → Run Unit
  | 0, _, _, _, _ => throw (.wait .busy)
  | fuel + 1, untilDone, test, body, last => do
    let goesOn ← loopBody (run fuel test)
    let s ← get
    if !goesOn then finish 0
    else if (s.status = 0) = (untilDone = false) then do
      let goesOn ← loopBody (run fuel body)
      if goesOn then do
        let s ← get
        runLoop fuel untilDone test body s.status
    else finish last

def runEach : Nat → Str → List Str → Command → Run Unit
  | 0, _, _, _ => throw (.wait .busy)
  | fuel + 1, name, words, body =>
    match words with
    | [] => pure ()
    | word :: rest => do
      modify fun s => s.set name word
      let goesOn ← loopBody (run fuel body)
      if goesOn then runEach fuel name rest body

/-- Runs the first clause with a pattern that matches. -/
def runSelect : Nat → Str → List (List Word × Command) → Run Unit
  | 0, _, _ => throw (.wait .busy)
  | fuel + 1, subject, clauses =>
    match clauses with
    | [] => finish 0
    | ([], _) :: rest => runSelect fuel subject rest
    | (word :: words, body) :: rest => do
      let pattern ← patternOf fuel word
      if matchesAll pattern subject then do
        finish 0
        run fuel body
      else runSelect fuel subject ((words, body) :: rest)

def runSimple : Nat → List (Str × Word) → List Word → List Redirect → Run Unit
  | 0, _, _, _ => throw (.wait .busy)
  | fuel + 1, assignments, words, rs => do
    let expanded ← fields fuel words
    match expanded with
    | [] => do
      finish 0
      mending (leaveRedirects rs) do
        let opened ← openAll fuel rs
        if opened then assignAll fuel assignments
    | name :: args =>
      if name = "exec".toList then do
        -- The redirections stay: the script goes on with them, or another program takes its place.
        let opened ← openAll fuel rs
        if !opened then throw .exit
        else if args.isEmpty then finish 0
        else do
          assignAll fuel assignments
          runNamed fuel name args
      else
        mending (leaveRedirects rs) do
          let opened ← openAll fuel rs
          if opened then
            mending (fun before after => assignments.foldl (fun s a => before.restore a.1 s) after) do
              assignAll fuel assignments
              runNamed fuel name args

def run : Nat → Command → Run Unit
  | 0, _ => throw (.wait .busy)
  | fuel + 1, c =>
    match c with
    | .simple assignments words rs => runSimple fuel assignments words rs
    | .pipeline negated stages => do
      runStages fuel stages
      if negated then modify fun s => { s with status := if s.status = 0 then 1 else 0 }
    | .both first second => do
      run fuel first
      let s ← get
      if s.status = 0 then run fuel second
    | .either first second => do
      run fuel first
      let s ← get
      if s.status ≠ 0 then run fuel second
    | .sequence commands => runAll fuel commands
    | .loop untilDone test body => runLoop fuel untilDone test body 0
    | .branch test whenTrue whenFalse => do
      run fuel test
      let s ← get
      if s.status = 0 then run fuel whenTrue
      else
        finish 0
        run fuel whenFalse
    | .each name words body => do
      let s ← get
      let items ← match words with
        | some words => fields fuel words
        | none => pure s.arguments
      finish 0
      runEach fuel name items body
    | .select subject clauses => do
      let text := joinPieces (← pieces fuel subject)
      runSelect fuel text clauses
    | .define name body =>
      modify fun s =>
        { s with functions := (name, body) :: s.functions.filter (·.1 ≠ name), status := 0 }
    | .subshell body => subshell (run fuel body)
    | .redirected body rs =>
      mending (leaveRedirects rs) do
        let opened ← openAll fuel rs
        if opened then run fuel body
    | .background body => do
      let s ← get
      let (_, t) := subshell (withInput [] true (run fuel body)) s
      set { t with status := 0, patience := s.patience }

end

def maxDepth : Nat := 4000

/-- Runs a step from a state until it ends or can only wait. -/
def finalState (step : Run Unit) (s : State) : State × Child.Ending :=
  match step s with
  | (.error (.wait what), t) => (t, .waiting what)
  | (_, t) => (t, .exited t.status)

end LspClient.Shell
