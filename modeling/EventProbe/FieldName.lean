import EventProbe.Text.Numeral
import EventProbe.Text.Utf8

/-!
# Field names

A field name is a dotted path of segments with an optional argument in brackets, as in `evt.num`,
`evt.arg[seq]` or `payload.word[2]`.
-/

namespace EventProbe

structure FieldName where
  path : String
  /-- What stands in brackets. -/
  argument : Option String
  deriving DecidableEq, Repr

namespace FieldName

inductive Fault where
  | empty
  /-- The text ends where a field name would have to go on. -/
  | ended
  /-- No field name goes on after so many bytes. -/
  | unexpected (position : Nat)
  deriving DecidableEq, Repr

def Fault.message : Fault → String
  | .empty => "empty field name"
  | .ended => "unexpected end of field name"
  | .unexpected position => s!"unexpected input at position {position}"

/-- The fault of a text that was read up to the characters that are left. -/
def Fault.stopped (chars left : List Char) : Fault :=
  if chars.isEmpty then .empty
  else if left.isEmpty then .ended
  else .unexpected (Utf8.width chars - Utf8.width left)

def isSegmentChar (c : Char) : Bool :=
  c.isAlphanum || c == '_'

def isArgumentChar (c : Char) : Bool :=
  c != '[' && c != ']'

/-- The longest path that goes on after the characters read so far (newest first), and what is left.
A dot belongs to the path only if a segment follows it. -/
def pathTail : List Char → List Char → List Char × List Char
  | [], found => (found.reverse, [])
  | c :: rest, found =>
    if isSegmentChar c then pathTail rest (c :: found)
    else if c = '.' && (rest.head?.map isSegmentChar).getD false then pathTail rest (c :: found)
    else (found.reverse, c :: rest)

/-- The longest path at the start of a text, and what is left; no path is empty. -/
def takePath (chars : List Char) : Option (List Char × List Char) :=
  if (chars.head?.map isSegmentChar).getD false then some (pathTail chars []) else none

/-- The bracketed argument at the start of a text, and what is left; no argument is empty. -/
def takeArgument (chars : List Char) : Option (List Char × List Char) :=
  match chars with
  | '[' :: rest =>
    let argument := rest.takeWhile isArgumentChar
    match rest.drop argument.length with
    | ']' :: left => if argument.isEmpty then none else some (argument, left)
    | _ => none
  | _ => none

def read (chars : List Char) : Except Fault FieldName :=
  match takePath chars with
  | none => .error (.stopped chars chars)
  | some (path, rest) =>
    let (argument, left) := match takeArgument rest with
      | some (argument, left) => (some argument, left)
      | none => (none, rest)
    if left.isEmpty then .ok ⟨String.ofList path, argument.map String.ofList⟩
    else .error (.stopped chars left)

def parse (text : String) : Except Fault FieldName :=
  read text.toList

def text (f : FieldName) : String :=
  match f.argument with
  | some argument => f.path ++ "[" ++ argument ++ "]"
  | none => f.path

def index (f : FieldName) : Option Nat :=
  f.argument.bind Numeral.parse?

/-- The first segment of the path. -/
def family (f : FieldName) : String :=
  String.ofList (f.path.toList.takeWhile (· != '.'))

end FieldName

end EventProbe
