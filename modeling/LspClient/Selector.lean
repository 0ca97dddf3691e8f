import LspClient.Json.Printer
import LspClient.Text.Ascii

/-!
# Document selectors

A selector is a list of filters; a document is selected if any filter matches its scheme and its language.
The JSON form of a filter is an object with the two fields, or an array of the two texts.
-/

namespace LspClient

/-- Documents of one language under one URI scheme. -/
structure DocumentFilter where
  scheme : String
  language : String
deriving DecidableEq, Repr

/-- The filters a server is registered with, in order. -/
structure DocumentSelector where
  filters : List DocumentFilter
deriving DecidableEq, Repr

namespace DocumentFilter

/-- Schemes are compared without regard to case, languages exactly. -/
def isMatch (f : DocumentFilter) (scheme language : String) : Bool :=
  Text.sameIgnoringCase f.scheme.toList scheme.toList && f.language == language

def chars (f : DocumentFilter) : List Char :=
  "\x7b\x22scheme\x22:".toList ++ Json.quote f.scheme ++ ",\x22language\x22:".toList
    ++ Json.quote f.language ++ ['\x7d']

structure Fields where
  scheme : Option String := none
  language : Option String := none

def text? : Json.Syntax → Option String
  | .string s => Json.Fragment.decode? s
  | _ => none

/-- Takes a member into its field. A field given twice is refused, an unknown member is passed over. -/
def takeMember (fields : Fields) (member : List Json.Fragment × Json.Syntax) : Option Fields :=
  match Json.Fragment.decode? member.1 with
  | some "scheme" =>
    if fields.scheme.isSome then none
    else (text? member.2).map fun s => { fields with scheme := some s }
  | some "language" =>
    if fields.language.isSome then none
    else (text? member.2).map fun s => { fields with language := some s }
  | some _ => some fields
  | none => none

def ofSyntax? : Json.Syntax → Option DocumentFilter
  | .object members =>
    match members.foldlM takeMember {} with
    | some ⟨some scheme, some language⟩ => some ⟨scheme, language⟩
    | _ => none
  | .array [scheme, language] =>
    match text? scheme, text? language with
    | some scheme, some language => some ⟨scheme, language⟩
    | _, _ => none
  | _ => none

end DocumentFilter

namespace DocumentSelector

def fileScheme : String := "file"

/-- Local files of one language. -/
def localFiles (language : String) : DocumentSelector :=
  ⟨[⟨fileScheme, language⟩]⟩

def isMatch (s : DocumentSelector) (scheme language : String) : Bool :=
  s.filters.any fun f => f.isMatch scheme language

/-- The positions of the filters that match. -/
def matching (s : DocumentSelector) (scheme language : String) : List Nat :=
  (s.filters.zipIdx.filter fun f => f.1.isMatch scheme language).map Prod.snd

def chars (s : DocumentSelector) : List Char :=
  '[' :: (List.intercalate [','] (s.filters.map DocumentFilter.chars) ++ [']'])

def render (s : DocumentSelector) : String :=
  String.ofList s.chars

def ofSyntax? : Json.Syntax → Option DocumentSelector
  | .array elements => (elements.mapM DocumentFilter.ofSyntax?).map DocumentSelector.mk
  | _ => none

def ofText? (s : String) : Option DocumentSelector :=
  (Json.Document.ofChars? s.toList).bind ofSyntax?

end DocumentSelector

end LspClient
