import LspClient.Text.Utf8
import LspClient.Json.Document
import LspClient.Json.Number

/-!
# JSON values

A value holds decoded strings and numbers, and its objects hold each key once, in ascending order of the
keys. `Json.parse?` reads a value from bytes: they have to be text, spell a document nested no deeper than
`maxDepth`, and every number and string in it has to have a value.
-/

namespace LspClient

inductive Json where
  | null
  | bool (b : Bool)
  | num (n : Json.Number)
  | str (s : String)
  | arr (elements : List Json)
  | obj (members : List (String × Json))
deriving Repr

namespace Json

def ofInt (i : Int) : Json := .num (.int i)

def ofNat (n : Nat) : Json := .num (.int n)

/-- Puts a member where its key belongs, in place of one that has the same key. -/
def insertMember (m : String × Json) : List (String × Json) → List (String × Json)
  | [] => [m]
  | n :: rest =>
    if m.1 < n.1 then m :: n :: rest
    else if m.1 = n.1 then m :: rest
    else n :: insertMember m rest

/-- The object with the given members: keys ascend by code points, and a repeated key keeps its last
value. -/
def ofMembers (members : List (String × Json)) : Json :=
  .obj (members.foldl (fun sorted m => insertMember m sorted) [])

/-- The member of an object under a key; other values have none. -/
def get? (v : Json) (key : String) : Option Json :=
  match v with
  | .obj members => members.lookup key
  | _ => none

def str? : Json → Option String
  | .str s => some s
  | _ => none

/-- The number of an integer value from 0 up to the greatest 64-bit number. -/
def word? : Json → Option Nat
  | .num (.int (.ofNat n)) => if n < Number.wordBound then some n else none
  | _ => none

/-- The number of an integer value within 64 bits with a sign. -/
def int64? : Json → Option Int
  | .num (.int i) => if -(0x8000000000000000 : Int) ≤ i ∧ i < 0x8000000000000000 then some i else none
  | _ => none

def isNull : Json → Bool
  | .null => true
  | _ => false

mutual

def ofSyntax? : Syntax → Option Json
  | .null => some .null
  | .bool b => some (.bool b)
  | .number n => (Number.ofLiteral? n).map .num
  | .string s => (Fragment.decode? s).map .str
  | .array elements => (ofElements? elements).map .arr
  | .object members => (ofMembersSyntax? members).map ofMembers

def ofElements? : List Syntax → Option (List Json)
  | [] => some []
  | x :: rest =>
    match ofSyntax? x, ofElements? rest with
    | some v, some vs => some (v :: vs)
    | _, _ => none

def ofMembersSyntax? : List (List Fragment × Syntax) → Option (List (String × Json))
  | [] => some []
  | (k, x) :: rest =>
    match Fragment.decode? k, ofSyntax? x, ofMembersSyntax? rest with
    | some k, some v, some vs => some ((k, v) :: vs)
    | _, _, _ => none

end

/-- How deep arrays and objects may be nested in a message. -/
def maxDepth : Nat := 127

def ofChars? (cs : List Char) : Option Json :=
  (Document.ofChars? cs).bind fun d => if d.depth ≤ maxDepth then ofSyntax? d else none

def parse? (bytes : Bytes) : Option Json :=
  (Utf8.decode? bytes).bind ofChars?

end Json

end LspClient
