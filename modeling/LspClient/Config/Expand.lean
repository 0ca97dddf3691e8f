import LspClient.Environment

/-!
# Variables in configured values

A configured value may refer to variables of the environment by `${NAME}`. Each reference is replaced by the
variable's value, or by nothing if it has none; what is put in is not looked at again. A reference that is
never closed stays as it is, with everything behind it.
-/

namespace LspClient.Config

/-- A part of a value: text, or a reference to a variable. -/
inductive Segment where
  | text (cs : List Char)
  | reference (name : List Char)
deriving DecidableEq, Repr

/-- Where the reading of a value stands. Characters are kept last one first. -/
inductive SegmentMode where
  | text (read : List Char)
  /-- A dollar sign was read behind the text. -/
  | dollar (read : List Char)
  /-- A reference was opened behind the text. -/
  | reference (read name : List Char)

def segmentsFrom : SegmentMode → List Char → List Segment
  | .text read, [] => [.text read.reverse]
  | .dollar read, [] => [.text ('$' :: read).reverse]
  | .reference read name, [] => [.text (read.reverse ++ '$' :: '\x7b' :: name.reverse)]
  | .text read, c :: rest =>
    if c = '$' then segmentsFrom (.dollar read) rest else segmentsFrom (.text (c :: read)) rest
  | .dollar read, c :: rest =>
    if c = '\x7b' then segmentsFrom (.reference read []) rest
    else if c = '$' then segmentsFrom (.dollar ('$' :: read)) rest
    else segmentsFrom (.text (c :: '$' :: read)) rest
  | .reference read name, c :: rest =>
    if c = '\x7d' then .text read.reverse :: .reference name.reverse :: segmentsFrom (.text []) rest
    else segmentsFrom (.reference read (c :: name)) rest

def segments (value : List Char) : List Segment :=
  segmentsFrom (.text []) value

def Segment.expand (lookup : String → Option String) : Segment → List Char
  | .text cs => cs
  | .reference name => ((lookup (String.ofList name)).getD "").toList

/-- A value with its references replaced by what `lookup` finds. -/
def expandWith (lookup : String → Option String) (value : String) : String :=
  String.ofList ((segments value.toList).flatMap (Segment.expand lookup))

def expand (environment : Bindings) (value : String) : String :=
  expandWith (Bindings.text? environment) value

end LspClient.Config
