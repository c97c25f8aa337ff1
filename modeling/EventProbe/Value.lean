import EventProbe.Address
import EventProbe.Time.Instant

/-!
# Field values

The values that extraction yields, where in the event data they were found, and the text in which a
field is shown.
-/

namespace EventProbe

/-- The type of a field as its table declares it. -/
inductive FieldType where
  | uint64
  | bool
  | string
  | relTime
  | absTime
  | ipAddr
  deriving DecidableEq, Repr

inductive FieldValue where
  | number (n : Nat)
  | bool (b : Bool)
  | text (s : String)
  /-- A duration in nanoseconds. -/
  | duration (nanos : Nat)
  /-- A time, in nanoseconds since 1 January 1970. -/
  | time (nanos : Nat)
  | address (a : Address)
  /-- Several values of one field. -/
  | list (values : List FieldValue)
  deriving Repr

/-- The instant of a time in nanoseconds since 1 January 1970, if there is such a date. The seconds are
taken as a signed word. -/
def timeInstant? (nanos : Nat) : Option Instant :=
  Instant.ofTimestamp? (Int.bmod (nanos / Instant.nanosPerSecond : Nat) wordLimit)
    (nanos % Instant.nanosPerSecond)

/-- The text of a time in nanoseconds since 1 January 1970: its date, or the number where there is
none. -/
def timeText (nanos : Nat) : String :=
  ((timeInstant? nanos).map (Instant.text .nanos)).getD (toString nanos)

mutual

def FieldValue.shown : FieldValue → String
  | .number n => toString n
  | .bool b => if b then "true" else "false"
  | .text s => s
  | .duration nanos => toString nanos
  | .time nanos => timeText nanos
  | .address a => a.text
  | .list values => "(" ++ ",".intercalate (FieldValue.shownAll values) ++ ")"

def FieldValue.shownAll : List FieldValue → List String
  | [] => []
  | v :: rest => v.shown :: FieldValue.shownAll rest

end

structure Range where
  start : Nat
  length : Nat
  deriving DecidableEq, Repr

def Range.greatest : Nat := halfWordLimit - 1

/-- A byte range; what lies past the greatest position is cut down to it. -/
def Range.clamped (start length : Nat) : Range :=
  ⟨min start Range.greatest, min length Range.greatest⟩

/-- A value that extraction yields. -/
structure Extracted where
  value : FieldValue
  /-- Where the value was read, if that is known. -/
  range : Option Range
  deriving Repr

def Extracted.plain (value : FieldValue) : Extracted :=
  ⟨value, none⟩

/-- A value read from the bytes that begin at `start`. -/
def Extracted.located (value : FieldValue) (start length : Nat) : Extracted :=
  ⟨value, some (Range.clamped start length)⟩

/-- The text of a field with the given values; a field without values has none. -/
def shownValues : List Extracted → Option String
  | [] => none
  | [single] => some single.value.shown
  | many => some (FieldValue.list (many.map (·.value))).shown

end EventProbe
