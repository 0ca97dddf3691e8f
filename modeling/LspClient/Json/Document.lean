import LspClient.Json.Token

/-!
# From tokens to documents

A pushdown machine: each token is answered from the innermost open container and from what may come
next, so a document is read in one pass over its tokens.
-/

namespace LspClient.Json.Document

/-- A container that is still open, with what it holds so far, last one first. -/
inductive Frame where
  | array (elements : List Syntax)
  | object (members : List (List Fragment × Syntax))
  | member (members : List (List Fragment × Syntax)) (key : List Fragment)

/-- What may come next. -/
inductive Due where
  | value
  | elementOrClose
  | keyOrClose
  | key
  | colon
  | separator
  | nothing (result : Syntax)

/-- The open containers, innermost first, and what may come next. -/
structure State where
  frames : List Frame
  due : Due

/-- Puts a finished value where it belongs. -/
def place (frames : List Frame) (v : Syntax) : Option State :=
  match frames with
  | [] => some ⟨[], .nothing v⟩
  | .array elements :: outer => some ⟨.array (v :: elements) :: outer, .separator⟩
  | .member members key :: outer => some ⟨.object ((key, v) :: members) :: outer, .separator⟩
  | .object _ :: _ => none

def value (frames : List Frame) : Token → Option State
  | .null => place frames .null
  | .bool b => place frames (.bool b)
  | .number n => place frames (.number n)
  | .string s => place frames (.string s)
  | .openArray => some ⟨.array [] :: frames, .elementOrClose⟩
  | .openObject => some ⟨.object [] :: frames, .keyOrClose⟩
  | _ => none

def close (frames : List Frame) : Token → Option State
  | .closeArray =>
    match frames with
    | .array elements :: outer => place outer (.array elements.reverse)
    | _ => none
  | .closeObject =>
    match frames with
    | .object members :: outer => place outer (.object members.reverse)
    | _ => none
  | _ => none

def key (frames : List Frame) (s : List Fragment) : Option State :=
  match frames with
  | .object members :: outer => some ⟨.member members s :: outer, .colon⟩
  | _ => none

def comma (frames : List Frame) : Option State :=
  match frames with
  | .array _ :: _ => some ⟨frames, .value⟩
  | .object _ :: _ => some ⟨frames, .key⟩
  | _ => none

/-- Answers one token. -/
def step (s : State) (t : Token) : Option State :=
  match s.due, t with
  | .value, t => value s.frames t
  | .elementOrClose, .closeArray => close s.frames .closeArray
  | .elementOrClose, t => value s.frames t
  | .keyOrClose, .closeObject => close s.frames .closeObject
  | .keyOrClose, .string k => key s.frames k
  | .key, .string k => key s.frames k
  | .colon, .colon => some ⟨s.frames, .value⟩
  | .separator, .comma => comma s.frames
  | .separator, t => close s.frames t
  | _, _ => none

def run (s : State) : List Token → Option State
  | [] => some s
  | t :: rest =>
    match step s t with
    | some s => run s rest
    | none => none

/-- The document that a row of tokens spells. -/
def ofTokens? (ts : List Token) : Option Syntax :=
  match run ⟨[], .value⟩ ts with
  | some ⟨_, .nothing v⟩ => some v
  | _ => none

def ofChars? (cs : List Char) : Option Syntax :=
  (Token.lex? cs).bind ofTokens?

end LspClient.Json.Document
