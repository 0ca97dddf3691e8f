import LspClient.Text.Utf8

/-!
# Environments

An environment as a process receives it maps each name to one value and lists its names in ascending byte
order. A raw list of bindings may bind a name again; the last binding counts.
-/

namespace LspClient

/-- Bindings in the order they were made. -/
abbrev Bindings := List (Bytes × Bytes)

/-- Each name once, in ascending order. -/
structure Environment where
  entries : Bindings
deriving DecidableEq, Repr

namespace Environment

def empty : Environment := ⟨[]⟩

/-- Binds a name in a list that ascends. -/
def insertEntry (key value : Bytes) : Bindings → Bindings
  | [] => [(key, value)]
  | (k, v) :: rest =>
    if key = k then (key, value) :: rest
    else if key < k then (key, value) :: (k, v) :: rest
    else (k, v) :: insertEntry key value rest

def insert (e : Environment) (key value : Bytes) : Environment :=
  ⟨insertEntry key value e.entries⟩

def ofBindings (bs : Bindings) : Environment :=
  bs.foldl (fun e b => e.insert b.1 b.2) empty

def get? (e : Environment) (key : Bytes) : Option Bytes :=
  e.entries.lookup key

end Environment

namespace Bindings

def last? (bs : Bindings) (key : Bytes) : Option Bytes :=
  bs.reverse.lookup key

def equals : UInt8 := 0x3D

/-- What stands behind a name and an equals sign in the entries `NAME=VALUE` of an environment. A name that has an
equals sign itself can be met by the beginning of a value. -/
def value? (bs : Bindings) (name : Bytes) : Option Bytes :=
  let key := name.takeWhile (· ≠ equals)
  if key = [] || name.contains 0 then none
  else
    (last? bs key).bind fun value => (name.drop key.length ++ [equals]).isPrefixOf? (equals :: value)

/-- The value of a variable as text; a value that is no text counts as unset. -/
def text? (bs : Bindings) (name : String) : Option String :=
  (value? bs (Bytes.ofString name)).bind Bytes.text?

end Bindings

end LspClient
