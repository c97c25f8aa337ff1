import EventProbe.Capture.Format
import EventProbe.Text.Blank

/-!
# Reading capture files

The bytes of a capture file are cut into lines. The first line is the header; of the others, blank
lines are passed over and every other one is a record. Reading stops at the first line that is none
of these, and names it.
-/

namespace EventProbe.Capture

/-- What is wrong with a line. -/
inductive LineFault where
  | missingHeader
  | notText
  | badHeader (reason : String)
  | unknownMagic (magic : String)
  | unsupportedVersion (version : Nat)
  | badRecord (reason : String)
  deriving DecidableEq, Repr

def LineFault.message : LineFault → String
  | .missingHeader => "missing header"
  | .notText => "stream did not contain valid UTF-8"
  | .badHeader reason => s!"invalid header: {reason}"
  | .unknownMagic magic => s!"unknown magic {Text.quoted magic}"
  | .unsupportedVersion version => s!"unsupported version {version}"
  | .badRecord reason => reason

/-- The first bad line of a file, counted from one. -/
structure Malformed where
  line : Nat
  fault : LineFault
  deriving DecidableEq, Repr

def Malformed.message (m : Malformed) : String :=
  s!"malformed capture file at line {m.line}: {m.fault.message}"

/-- A line without its end, `\n` or `\r\n`, given its bytes newest first. -/
def lineOf (terminated : Bool) (found : List UInt8) : List UInt8 :=
  match terminated, found with
  | true, 0x0D :: rest => rest.reverse
  | _, found => found.reverse

/-- The lines of the remaining bytes, after the bytes of the present line and the lines found so far
(each newest first). -/
def cutLines : List UInt8 → List UInt8 → List (List UInt8) → List (List UInt8)
  | [], [], lines => lines.reverse
  | [], found, lines => (lineOf false found :: lines).reverse
  | b :: rest, found, lines =>
    if b = 0x0A then cutLines rest [] (lineOf true found :: lines)
    else cutLines rest (b :: found) lines

def fileLines (bytes : List UInt8) : List (List UInt8) :=
  cutLines bytes [] []

def lineText (bytes : List UInt8) : Except LineFault String :=
  (Utf8.decode bytes).mapError fun _ => .notText

def readHeader (line : List UInt8) : Except LineFault Header := do
  let text ← lineText line
  let header ← (Json.decode (Json.readRecord Header.layout) text).mapError .badHeader
  if header.magic ≠ Capture.magic then throw (.unknownMagic header.magic)
  if header.version ≠ Capture.version then throw (.unsupportedVersion header.version)
  return header

/-- Reads a later line; a blank one is no record. -/
def readRecordLine (line : List UInt8) : Except LineFault (Option Record) := do
  let text ← lineText line
  if Text.isBlankText text then return none
  let record ← (Json.decode (Json.readRecord Record.layout) text).mapError .badRecord
  return some record

/-- Reads the remaining lines, the first of which has the given number, after the records found so
far (newest first). -/
def readRecords : List (List UInt8) → Nat → List Record → Except Malformed (List Record)
  | [], _, found => .ok found.reverse
  | line :: rest, number, found =>
    match readRecordLine line with
    | .error fault => .error ⟨number, fault⟩
    | .ok none => readRecords rest (number + 1) found
    | .ok (some record) => readRecords rest (number + 1) (record :: found)

structure Contents where
  header : Header
  records : List Record
  deriving DecidableEq, Repr

def read (bytes : List UInt8) : Except Malformed Contents :=
  match fileLines bytes with
  | [] => .error ⟨1, .missingHeader⟩
  | line :: rest =>
    match readHeader line with
    | .error fault => .error ⟨1, fault⟩
    | .ok header => (readRecords rest 2 []).map fun records => ⟨header, records⟩

end EventProbe.Capture
