/-!
# UTF-8

Event data and capture files are bytes; most of what is done with them is done with text. A byte
sequence is cut from left to right into pieces: characters, and the faults that a decoder reports.
A fault is the longest start of a character that the bytes present, so that two readings of the
same bytes never disagree on where the next character begins.
-/

namespace EventProbe.Utf8

def encode (text : String) : List UInt8 :=
  text.toList.flatMap String.utf8EncodeChar

/-- Number of bytes of a run of characters. -/
def width (chars : List Char) : Nat :=
  chars.foldl (fun n c => n + c.utf8Size) 0

/-- One step of decoding. -/
inductive Piece where
  | char (c : Char)
  /-- So many bytes that are not, and do not begin, a character. -/
  | broken (length : Nat)
  /-- The input ends after so many bytes of a character. -/
  | cut (length : Nat)
  deriving DecidableEq, Repr

/-- A character of which some bytes are still owed. -/
structure Pending where
  code : Nat
  seen : Nat
  /-- Bytes owed, at least one. -/
  owed : Nat
  /-- Least value of the next byte. -/
  low : UInt8
  /-- Greatest value of the next byte. -/
  high : UInt8

/-- What a first byte announces: the bits it carries, how many bytes follow it, and the range of
the first of these. The ranges exclude overlong forms, surrogates and values past the last
character. -/
def lead (b : UInt8) : Option Pending :=
  let n := b.toNat
  if b < 0xC2 then none
  else if b < 0xE0 then some ⟨n - 0xC0, 1, 1, 0x80, 0xBF⟩
  else if b = 0xE0 then some ⟨0, 1, 2, 0xA0, 0xBF⟩
  else if b = 0xED then some ⟨0xD, 1, 2, 0x80, 0x9F⟩
  else if b < 0xF0 then some ⟨n - 0xE0, 1, 2, 0x80, 0xBF⟩
  else if b = 0xF0 then some ⟨0, 1, 3, 0x90, 0xBF⟩
  else if b < 0xF4 then some ⟨n - 0xF0, 1, 3, 0x80, 0xBF⟩
  else if b = 0xF4 then some ⟨4, 1, 3, 0x80, 0x8F⟩
  else none

def start (b : UInt8) : Option Pending × Option Piece :=
  if b < 0x80 then (none, some (.char (Char.ofNat b.toNat)))
  else match lead b with
    | some p => (some p, none)
    | none => (none, some (.broken 1))

/-- A byte inside a character; `none` when the byte cannot continue it. -/
def continue? (p : Pending) (b : UInt8) : Option (Option Pending × Option Piece) :=
  if p.low ≤ b ∧ b ≤ p.high then
    let code := p.code * 64 + (b.toNat - 0x80)
    if p.owed ≤ 1 then some (none, some (.char (Char.ofNat code)))
    else some (some ⟨code, p.seen + 1, p.owed - 1, 0x80, 0xBF⟩, none)
  else none

/-- The pieces of the remaining bytes, after the pieces found so far (newest first). -/
def scan : List UInt8 → Option Pending → List Piece → List Piece
  | [], none, found => found.reverse
  | [], some p, found => (.cut p.seen :: found).reverse
  | b :: rest, none, found =>
    let (p, piece) := start b
    scan rest p (piece.toList ++ found)
  | b :: rest, some p, found =>
    match continue? p b with
    | some (p, piece) => scan rest p (piece.toList ++ found)
    | none =>
      let (q, piece) := start b
      scan rest q (piece.toList ++ .broken p.seen :: found)

def pieces (bytes : List UInt8) : List Piece :=
  scan bytes none []

def Piece.shown : Piece → Char
  | .char c => c
  | _ => '\uFFFD'

/-- Bytes as text, with U+FFFD for each fault. -/
def lossy (bytes : List UInt8) : String :=
  String.ofList ((pieces bytes).map Piece.shown)

structure Fault where
  /-- Number of bytes before the fault. -/
  index : Nat
  /-- Length of the fault; `none` when the input ends inside a character. -/
  length : Option Nat
  deriving DecidableEq, Repr

def Fault.message (f : Fault) : String :=
  match f.length with
  | some n => s!"invalid utf-8 sequence of {n} bytes from index {f.index}"
  | none => s!"incomplete utf-8 byte sequence from index {f.index}"

/-- The characters of the pieces if all are characters, after the characters read so far (newest
first), which take `index` bytes. -/
def collect : List Piece → Nat → List Char → Except Fault (List Char)
  | [], _, found => .ok found.reverse
  | .char c :: rest, index, found => collect rest (index + c.utf8Size) (c :: found)
  | .broken n :: _, index, _ => .error ⟨index, some n⟩
  | .cut _ :: _, index, _ => .error ⟨index, none⟩

def decode (bytes : List UInt8) : Except Fault String :=
  (collect (pieces bytes) 0 []).map String.ofList

end EventProbe.Utf8
