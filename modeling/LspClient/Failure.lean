/-!
# Failures

A failure that is only reported: its message, and the causes behind it from the nearest to the last.
-/

namespace LspClient

structure Failure where
  message : String
  causes : List String := []
deriving DecidableEq, Repr

namespace Failure

def within (context : String) (e : Failure) : Failure :=
  ⟨context, e.message :: e.causes⟩

def full (e : Failure) : String :=
  ": ".intercalate (e.message :: e.causes)

def indentRest (indent text : String) : String :=
  String.ofList (text.toList.flatMap fun c => if c = '\n' then c :: indent.toList else [c])

/-- A number with blanks in front up to five characters. -/
def alignRight (n : Nat) : String :=
  let digits := toString n
  String.ofList (List.replicate (5 - digits.length) ' ') ++ digits

/-- The causes one under the other; more than one are numbered. -/
def causeLines (e : Failure) : List String :=
  match e.causes with
  | [cause] => ["    " ++ indentRest "    " cause]
  | causes => causes.zipIdx.map fun c => alignRight c.2 ++ ": " ++ indentRest "       " c.1

/-- The report of a program that ends with the failure. -/
def report (e : Failure) : String :=
  let causes :=
    if e.causes = [] then ""
    else "\n\nCaused by:\n" ++ "\n".intercalate e.causeLines
  "Error: " ++ e.message ++ causes ++ "\n"

end Failure

end LspClient
