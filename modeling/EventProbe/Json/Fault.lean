import EventProbe.Number.Shortest
import EventProbe.Text.Quoted
import EventProbe.Text.Utf8

/-!
# Faults of JSON texts

A reader of JSON holds what is left of its input and nothing else. A fault records how many bytes
were left where it happened; the line and column are worked out from the whole input when the fault
is shown.
-/

namespace EventProbe.Json

inductive Found where
  | null
  | boolean (b : Bool)
  | natural (n : Nat)
  | negative (n : Nat)
  | real (bits : Nat)
  | text (s : String)
  | list
  | object
  | bareVariant
  deriving DecidableEq, Repr

def Found.message : Found → String
  | .null => "null"
  | .boolean b => s!"boolean `{b}`"
  | .natural n => s!"integer `{n}`"
  | .negative n => s!"integer `-{n}`"
  | .real bits => "floating point `" ++ (Ieee.double.text bits).getD "null" ++ "`"
  | .text s => s!"string {Text.quoted s}"
  | .list => "sequence"
  | .object => "map"
  | .bareVariant => "unit variant"

def oneOf : List String → String
  | [a] => s!"`{a}`"
  | [a, b] => s!"`{a}` or `{b}`"
  | names => "one of " ++ Text.commaSeparated (names.map fun a => s!"`{a}`")

/-- What is wrong with a JSON text, or with its value for the type it is read as. -/
inductive Code where
  | endInList
  | endInObject
  | endInString
  | endInValue
  | expectedColon
  | expectedListCommaOrEnd
  | expectedObjectCommaOrEnd
  | expectedIdent
  | expectedValue
  | invalidEscape
  | invalidNumber
  | numberOutOfRange
  | controlCharacter
  | keyMustBeString
  | loneSurrogate
  | trailingComma
  | trailingCharacters
  | endOfHexEscape
  | invalidType (found : Found) (expected : String)
  | invalidValue (found : Found) (expected : String)
  | invalidLength (length : Nat) (expected : String)
  | missingField (name : String)
  | duplicateField (name : String)
  | unknownField (name : String) (known : List String)
  | unknownVariant (name : String) (known : List String)
  | custom (text : String)
  deriving DecidableEq, Repr

def Code.message : Code → String
  | .endInList => "EOF while parsing a list"
  | .endInObject => "EOF while parsing an object"
  | .endInString => "EOF while parsing a string"
  | .endInValue => "EOF while parsing a value"
  | .expectedColon => "expected `:`"
  | .expectedListCommaOrEnd => "expected `,` or `]`"
  | .expectedObjectCommaOrEnd => "expected `,` or `\x7d`"
  | .expectedIdent => "expected ident"
  | .expectedValue => "expected value"
  | .invalidEscape => "invalid escape"
  | .invalidNumber => "invalid number"
  | .numberOutOfRange => "number out of range"
  | .controlCharacter => "control character (\\u0000-\\u001F) found while parsing a string"
  | .keyMustBeString => "key must be a string"
  | .loneSurrogate => "lone leading surrogate in hex escape"
  | .trailingComma => "trailing comma"
  | .trailingCharacters => "trailing characters"
  | .endOfHexEscape => "unexpected end of hex escape"
  | .invalidType found expected => s!"invalid type: {found.message}, expected {expected}"
  | .invalidValue found expected => s!"invalid value: {found.message}, expected {expected}"
  | .invalidLength length expected => s!"invalid length {length}, expected {expected}"
  | .missingField name => s!"missing field `{name}`"
  | .duplicateField name => s!"duplicate field `{name}`"
  | .unknownField name known => s!"unknown field `{name}`, expected {oneOf known}"
  | .unknownVariant name known => s!"unknown variant `{name}`, expected {oneOf known}"
  | .custom text => text

/-- A fault and the number of bytes left where it happened; some faults have no place. -/
structure Fault where
  code : Code
  left : Option Nat
  deriving DecidableEq, Repr

def here (code : Code) (rest : List Char) : Fault :=
  ⟨code, some (Utf8.width rest)⟩

/-- A fault in the next byte, which counts as read. -/
def ahead (code : Code) (rest : List Char) : Fault :=
  ⟨code, some (Utf8.width rest - 1)⟩

/-- Line and column after so many bytes, from those reached so far. Columns count bytes, and a line
end belongs to the line after it. -/
def place : List Char → Nat → Nat → Nat → Nat × Nat
  | [], _, line, column => (line, column)
  | c :: rest, bytes, line, column =>
    if bytes = 0 then (line, column)
    else if c = '\n' then place rest (bytes - 1) (line + 1) 0
    else if bytes ≤ c.utf8Size then (line, column + bytes)
    else place rest (bytes - c.utf8Size) line (column + c.utf8Size)

def Fault.message (f : Fault) (input : List Char) : String :=
  match f.left with
  | none => f.code.message
  | some left =>
    let (line, column) := place input (Utf8.width input - left) 1 0
    s!"{f.code.message} at line {line} column {column}"

end EventProbe.Json
