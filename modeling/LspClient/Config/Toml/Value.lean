/-!
# TOML documents

A document is a table. Each table remembers how it came about, because that decides what may still be added
to it: one that a header names is defined once, one that only stands on the way to another may still be
defined, one made by dotted keys grows by dotted keys alone, and one written inline is complete.
-/

namespace LspClient.Config

/-- How a table came about. -/
inductive TableKind where
  /-- Named by a header, or the document itself. -/
  | headed
  /-- On the way to a table that a header names. -/
  | implied
  /-- On the way to a value with a dotted key. -/
  | dotted
  | inline
deriving DecidableEq, Repr

inductive Toml where
  | text (s : String)
  | integer (i : Int)
  | float
  | bool (b : Bool)
  | date
  | array (elements : List Toml)
  /-- Tables that headers in double brackets add one by one. -/
  | tables (elements : List (List (String × Toml)))
  | table (kind : TableKind) (entries : List (String × Toml))

namespace Toml

abbrev Entries := List (String × Toml)

def has (entries : Entries) (key : String) : Bool :=
  entries.any (·.1 == key)

def replace (entries : Entries) (key : String) (v : Toml) : Entries :=
  entries.map fun e => if e.1 = key then (key, v) else e

def setLast (elements : List Entries) (entries : Entries) : List Entries :=
  elements.dropLast ++ [entries]

def addNew (entries : Entries) (key : String) (v : Toml) : Option Entries :=
  if has entries key then none else some (entries ++ [(key, v)])

/-- Puts a value under a dotted key. Tables on the way are made if they are missing; those that a header
names cannot be grown, and the last one has to be the work of dotted keys. -/
def insertDotted (inDotted : Bool) (entries : Entries) : List String → String → Toml → Option Entries
  | [], key, v => if inDotted then addNew entries key v else none
  | step :: path, key, v =>
    match entries.lookup step with
    | none => (insertDotted true [] path key v).map fun inner => entries ++ [(step, .table .dotted inner)]
    | some (.table .dotted inner) =>
      (insertDotted true inner path key v).map fun inner => replace entries step (.table .dotted inner)
    | some (.table .implied inner) =>
      (insertDotted false inner path key v).map fun inner => replace entries step (.table .implied inner)
    | some (.tables elements) =>
      (insertDotted false (elements.getLastD []) path key v).map fun inner =>
        replace entries step (.tables (setLast elements inner))
    | some _ => none

def insert (entries : Entries) (path : List String) (key : String) (v : Toml) : Option Entries :=
  match path with
  | [] => addNew entries key v
  | _ => insertDotted false entries path key v

/-- Changes the table at the end of a path, making tables on the way that are missing. An array of tables
stands for its last element. -/
def descend (entries : Entries) (change : Entries → Option Entries) : List String → Option Entries
  | [] => change entries
  | step :: path =>
    match entries.lookup step with
    | none => (descend [] change path).map fun inner => entries ++ [(step, .table .implied inner)]
    | some (.table .inline _) => none
    | some (.table kind inner) =>
      (descend inner change path).map fun inner => replace entries step (.table kind inner)
    | some (.tables elements) =>
      (descend (elements.getLastD []) change path).map fun inner =>
        replace entries step (.tables (setLast elements inner))
    | some _ => none

def defineTable (document : Entries) (path : List String) (key : String) : Option Entries :=
  descend document
    (fun entries =>
      match entries.lookup key with
      | none => some (entries ++ [(key, .table .headed [])])
      | some (.table .implied inner) => some (replace entries key (.table .headed inner))
      | some _ => none)
    path

/-- Adds an element to the array of tables that a header names. -/
def defineElement (document : Entries) (path : List String) (key : String) : Option Entries :=
  descend document
    (fun entries =>
      match entries.lookup key with
      | none => some (entries ++ [(key, .tables [[]])])
      | some (.tables elements) => some (replace entries key (.tables (elements ++ [[]])))
      | some _ => none)
    path

end Toml

end LspClient.Config
