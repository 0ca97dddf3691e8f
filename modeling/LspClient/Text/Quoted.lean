import LspClient.Text.Hex
import LspClient.Text.Hidden
import LspClient.Text.Utf8

/-!
# Quoted texts

A text between double quotes, as messages show it: the quote, the backslash and what cannot be seen are
escaped. A quoted path also shows each byte that is no text in hexadecimal.
-/

namespace LspClient.Text

/-- The hexadecimal numeral of a number, in small letters. -/
def hexDigits (n : Nat) : List Char :=
  if n < 16 then [Hex.digit false n] else hexDigits (n / 16) ++ [Hex.digit false (n % 16)]
termination_by n

def codeEscape (c : Char) : List Char :=
  ['\\', 'u', '\x7b'] ++ hexDigits c.toNat ++ ['\x7d']

def quoteChar (c : Char) : List Char :=
  if c = '\x00' then ['\\', '0']
  else if c = '\t' then ['\\', 't']
  else if c = '\r' then ['\\', 'r']
  else if c = '\n' then ['\\', 'n']
  else if c = '\x22' then ['\\', '\x22']
  else if c = '\\' then ['\\', '\\']
  else if c.toNat < 0x20 then codeEscape c
  else if c.toNat < 0x7F then [c]
  else if isHidden c then codeEscape c
  else [c]

def quoted (s : List Char) : String :=
  String.ofList ('\x22' :: s.flatMap quoteChar ++ ['\x22'])

/-- A byte in capital hexadecimal. -/
def byteEscape (b : UInt8) : List Char :=
  let digit (d : Nat) : Char := if d < 10 then Char.ofNat (48 + d) else Char.ofNat (55 + d)
  ['\\', 'x', digit (b.toNat / 16), digit (b.toNat % 16)]

def quotedBytes (p : Bytes) : String :=
  let pieces := (Utf8.units p).flatMap fun
    | .char c => quoteChar c
    | .malformed bytes _ => bytes.flatMap byteEscape
  String.ofList ('\x22' :: pieces ++ ['\x22'])

end LspClient.Text
