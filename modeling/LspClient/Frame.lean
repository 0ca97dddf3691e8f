import LspClient.Json.Printer
import LspClient.Text.Ascii
import LspClient.Text.Blank
import LspClient.Text.Quoted

/-!
# Frames

A message travels as header lines, a blank line and a body whose length the header `Content-Length` gives.
Reading takes one message off a stream and leaves the rest. A stream that is still open may hold too little
for a verdict; a stream that has ended always allows one.
-/

namespace LspClient

inductive StreamError where
  | earlyEof
  /-- The target took no more bytes. -/
  | writeZero
  /-- Nobody reads the other end of an in-memory stream. -/
  | brokenPipe
  /-- Nobody reads the other end of a process's input. -/
  | brokenProcessPipe
  | notText (fault : Utf8.Fault)
deriving DecidableEq, Repr

def StreamError.message : StreamError → String
  | .earlyEof => "early eof"
  | .writeZero => "write zero"
  | .brokenPipe => "broken pipe"
  | .brokenProcessPipe => "Broken pipe (os error 32)"
  | .notText fault => fault.message

def maxFrameBytes : Nat := 4 * 1024 * 1024

inductive FrameError where
  | stream (cause : StreamError)
  | truncatedHeaders
  | missingContentLength
  | invalidContentLength (value : String)
  | tooLarge (length : Nat)
  | malformedBody
deriving DecidableEq, Repr

def FrameError.message : FrameError → String
  | .stream cause => "I/O error: " ++ cause.message
  | .truncatedHeaders => "unexpected EOF while reading headers"
  | .missingContentLength => "missing Content-Length header"
  | .invalidContentLength value => "invalid Content-Length value: " ++ Text.quoted value.toList
  | .tooLarge length =>
    "Content-Length " ++ Decimal.render length ++ " exceeds maximum " ++ Decimal.render maxFrameBytes
  | .malformedBody => "malformed JSON body"

namespace Frame

def contentLength : List Char := "Content-Length".toList

def lineFeed : UInt8 := 0x0A

/-- Lengths are numbers of 64 bits. -/
def lengthBound : Nat := 0x10000000000000000

/-- Reads a length: digits, with at most one plus sign in front. -/
def length? (cs : List Char) : Option Nat :=
  let ds := match cs with
    | '+' :: rest => rest
    | _ => cs
  (Decimal.value? ds).filter (· < lengthBound)

/-- Name and value of a header line, split at its first colon. -/
def field? (header : List Char) : Option (List Char × List Char) :=
  let name := header.takeWhile (· ≠ ':')
  match header.drop name.length with
  | _ :: value => some (name, value)
  | [] => none

inductive Line where
  | blank
  | length (n : Nat)
  /-- A length that is no number. -/
  | badLength (value : String)
  | other
deriving DecidableEq, Repr

def classifyLine (cs : List Char) : Line :=
  let header := Text.trim cs
  if header = [] then .blank
  else
    match field? header with
    | some (name, value) =>
      if Text.sameIgnoringCase (Text.trim name) contentLength then
        let value := Text.trim value
        match length? value with
        | some n => .length n
        | none => .badLength (String.ofList value)
      else .other
    | none => .other

/-- What a header block says: the length of the body, a failure, or nothing as the stream has ended. -/
inductive Headers where
  | length (n : Nat)
  | ended
  | failed (e : FrameError)
deriving DecidableEq, Repr

/-- How reading goes on after a line: with further lines, or with a verdict. -/
inductive AfterLine where
  | more (length : Option Nat)
  | verdict (h : Headers)

/-- Takes one line, where `length` is the length given last. -/
def takeLine (length : Option Nat) (line : Bytes) : AfterLine :=
  match Utf8.decode? line with
  | none =>
    .verdict (.failed (.stream (.notText ((Utf8.fault? line).getD ⟨0, none⟩))))
  | some cs =>
    match classifyLine cs with
    | .blank =>
      match length with
      | some n => .verdict (.length n)
      | none => .verdict (.failed .missingContentLength)
    | .length n => .more (some n)
    | .badLength value => .verdict (.failed (.invalidContentLength value))
    | .other => .more length

/-- Reads header lines. `line` is the line begun, last byte first, and `started` tells whether a line was
read before it. The verdict comes with what is left of the stream; there is none while an open stream may
still go on. -/
def readHeaders (ended started : Bool) (length : Option Nat) (line : Bytes) :
    Bytes → Option (Headers × Bytes)
  | [] =>
    if !ended then none
    else if line = [] then
      some (if started then .failed .truncatedHeaders else .ended, [])
    else
      match takeLine length line.reverse with
      | .verdict h => some (h, [])
      | .more _ => some (.failed .truncatedHeaders, [])
  | b :: rest =>
    if b = lineFeed then
      match takeLine length (b :: line).reverse with
      | .verdict h => some (h, rest)
      | .more length => readHeaders ended true length [] rest
    else readHeaders ended started length (b :: line) rest

inductive Reading where
  | message (v : Json)
  | ended
  | failed (e : FrameError)

def readBody (ended : Bool) (n : Nat) (stream : Bytes) : Option (Reading × Bytes) :=
  if maxFrameBytes < n then some (.failed (.tooLarge n), stream)
  else
    let body := stream.take n
    if body.length < n then
      if ended then some (.failed (.stream .earlyEof), []) else none
    else
      match Json.parse? body with
      | some v => some (.message v, stream.drop n)
      | none => some (.failed .malformedBody, stream.drop n)

/-- Reads one message off a stream that may still go on; `none` if it holds too little. -/
def readFrom (ended : Bool) (stream : Bytes) : Option (Reading × Bytes) :=
  match readHeaders ended false none [] stream with
  | none => none
  | some (.length n, rest) => readBody ended n rest
  | some (.ended, rest) => some (.ended, rest)
  | some (.failed e, rest) => some (.failed e, rest)

/-- Reads one message off a stream that has ended, and leaves the rest. -/
def read (stream : Bytes) : Reading × Bytes :=
  (readFrom true stream).getD (.ended, [])

/-- Reads at most `count` times, past failures too, and stops at the end of the stream. -/
def readMany : Nat → Bytes → List Reading
  | 0, _ => []
  | count + 1, stream =>
    match read stream with
    | (.ended, _) => [.ended]
    | (r, rest) => r :: readMany count rest

def header (length : Nat) : Bytes :=
  Bytes.ofString "Content-Length: " ++ Utf8.encode (Decimal.digits length) ++ [0x0D, 0x0A, 0x0D, 0x0A]

def ofBody (body : Bytes) : Bytes :=
  header body.length ++ body

def encode (message : Json) : Bytes :=
  ofBody message.bytes

end Frame

/-- Where frames are written to: the bytes taken, how many more fit, and how it fails when none do. -/
structure Target where
  taken : Bytes := []
  room : Option Nat := none
  failure : StreamError := .writeZero
  /-- How many bytes pass before the other side has to read on; `none` if it always does. -/
  window : Option Nat := none
deriving Repr

namespace Target

/-- Takes bytes as far as they fit, and fails if not all do. It waits for the other side as long as it takes. -/
def write (t : Target) (bytes : Bytes) : Target × Except StreamError Unit :=
  match t.room with
  | none => ({ t with taken := t.taken ++ bytes }, .ok ())
  | some n =>
    let t' := { t with taken := t.taken ++ bytes.take n, room := some (n - bytes.length) }
    if bytes.length ≤ n then (t', .ok ()) else (t', .error t.failure)

def passing (t : Target) (bytes : Bytes) : Nat :=
  match t.window with
  | none => bytes.length
  | some n => min n bytes.length

/-- Takes what passes now, and leaves the rest. -/
def put (t : Target) (bytes : Bytes) : Target × Except StreamError Bytes :=
  let n := t.passing bytes
  match { t with window := t.window.map (· - n) }.write (bytes.take n) with
  | (t, .ok ()) => (t, .ok (bytes.drop n))
  | (t, .error e) => (t, .error e)

def drain (t : Target) (n : Nat) : Target :=
  { t with window := t.window.map (· + n) }

def close (t : Target) (failure : StreamError) : Target :=
  { t with room := some 0, failure := failure, window := none }

/-- Writes a message as one frame, the header before the body. -/
def writeMessage (t : Target) (message : Json) : Target × Except FrameError Unit :=
  let body := message.bytes
  match t.write (Frame.header body.length) with
  | (t, .error e) => (t, .error (.stream e))
  | (t, .ok ()) =>
    match t.write body with
    | (t, .error e) => (t, .error (.stream e))
    | (t, .ok ()) => (t, .ok ())

/-- Writes messages one after the other, also after a failure. -/
def writeMessages (t : Target) : List Json → Target × List (Except FrameError Unit)
  | [] => (t, [])
  | m :: rest =>
    let (t, result) := t.writeMessage m
    let (t, results) := t.writeMessages rest
    (t, result :: results)

end Target

end LspClient
