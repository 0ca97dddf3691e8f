import LspClient.Path
import LspClient.Text.Hex

/-!
# File URIs

An absolute path as a `file` URI: each component behind a slash, with every byte escaped that may not stand
in a path segment.
-/

namespace LspClient

/-- The URI of a file, as the escaped components of its path. -/
structure FileUri where
  segments : List String
deriving DecidableEq, Repr

namespace FileUri

/-- A path without an absolute form has no file URI. -/
structure NotAbsolute where
  path : Bytes
deriving DecidableEq, Repr

def NotAbsolute.message (e : NotAbsolute) : String :=
  "cannot convert path to file URI: " ++ e.path.display

/-- Whether a byte is written as it is. Controls, the space, non-ASCII bytes and the marks that delimit
other parts of a URI are not. -/
def isPlain (b : UInt8) : Bool :=
  let n := b.toNat
  0x20 < n && n < 0x7F &&
    !([0x22, 0x23, 0x25, 0x3C, 0x3E, 0x3F, 0x5C, 0x60, 0x7B, 0x7D].contains n)

def encodeByte (b : UInt8) : List Char :=
  if isPlain b then [Char.ofNat b.toNat]
  else ['%', Hex.digit true (b.toNat / 16), Hex.digit true (b.toNat % 16)]

def encodeComponent (part : Bytes) : String :=
  String.ofList (part.flatMap encodeByte)

def ofPath (p : Bytes) : Except NotAbsolute FileUri :=
  if Path.isAbsolute p then .ok ⟨(Path.components p).map encodeComponent⟩ else .error ⟨p⟩

/-- The text of a URI. The root directory is a single slash. -/
def render (u : FileUri) : String :=
  if u.segments = [] then "file:///"
  else "file://" ++ String.join (u.segments.map fun s => "/" ++ s)

/-- The last segment, if it is not empty. -/
def lastSegment? (u : FileUri) : Option String :=
  u.segments.getLast?.filter (· ≠ "")

end FileUri

end LspClient
