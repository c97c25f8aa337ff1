/-!
# The input of the YAML reader

The characters that YAML gives a meaning to, the input brought into a form in which every ordinary
line ends with `\n`, and a cursor that knows its line and column.
-/

namespace EventProbe.Yaml

def isBreak (c : Char) : Bool :=
  c == '\n' || c == '\u2028' || c == '\u2029'

def isBlank (c : Char) : Bool :=
  c == ' ' || c == '\t'

def blankNext : List Char → Bool
  | [] => true
  | c :: _ => isBlank c || isBreak c

def lineEnds : List Char → Bool
  | [] => true
  | c :: _ => isBreak c

/-- Whether a character may be part of the name of an anchor or a directive. -/
def isWord (c : Char) : Bool :=
  c.isAlphanum || c == '_' || c == '-'

/-- Whether a marker of three equal characters stands alone at this place. -/
def isMarker (c : Char) (rest : List Char) : Bool :=
  rest.take 3 == [c, c, c] && blankNext (rest.drop 3)

def documentMarker (rest : List Char) : Bool :=
  isMarker '-' rest || isMarker '.' rest

def isAllowed (c : Char) : Bool :=
  let n := c.toNat
  n == 9 || n == 0xA || n == 0xD || (0x20 ≤ n && n ≤ 0x7E) || n == 0x85 || (0xA0 ≤ n && n ≤ 0xD7FF)
    || (0xE000 ≤ n && n ≤ 0xFFFD) || 0x10000 ≤ n

/-- The characters with every ordinary line end written as `\n`. -/
def normalizeLines : List Char → List Char → List Char
  | [], found => found.reverse
  | '\r' :: '\n' :: rest, found => normalizeLines rest ('\n' :: found)
  | c :: rest, found =>
    normalizeLines rest ((if c == '\r' || c == '\u0085' then '\n' else c) :: found)

/-- What is left of the input, and where that is. -/
structure Cursor where
  rest : List Char
  line : Nat
  column : Nat

namespace Cursor

def next (c : Cursor) : Cursor :=
  match c.rest with
  | [] => c
  | x :: rest => if isBreak x then ⟨rest, c.line + 1, 0⟩ else ⟨rest, c.line, c.column + 1⟩

/-- The cursor after so many characters of the same line. -/
def skip (c : Cursor) (n : Nat) : Cursor :=
  ⟨c.rest.drop n, c.line, c.column + n⟩

/-- The characters of the same line that come next and pass a test, and the cursor after them. -/
def takeWhile (c : Cursor) (test : Char → Bool) : List Char × Cursor :=
  let taken := c.rest.takeWhile fun x => test x && !isBreak x
  (taken, c.skip taken.length)

def skipBlanks (c : Cursor) : Cursor :=
  (c.takeWhile isBlank).2

def toLineEnd (c : Cursor) : Cursor :=
  (c.takeWhile fun _ => true).2

/-- The cursor at the start of the next line, if nothing but blanks and a comment is left in this
one. -/
def endLine (c : Cursor) : Option Cursor :=
  let c := c.skipBlanks
  let c := if c.rest.head? == some '#' then c.toLineEnd else c
  if lineEnds c.rest then some c.next else none

end Cursor

/-- The cursor at the start of a text. A byte order mark is passed over, and a second one too. -/
def openText (text : List Char) : Option Cursor :=
  if text.all isAllowed then
    let text := normalizeLines text []
    match text with
    | '\uFEFF' :: '\uFEFF' :: rest => some ⟨rest, 0, 1⟩
    | '\uFEFF' :: rest => some ⟨rest, 0, 0⟩
    | text => some ⟨text, 0, 0⟩
  else none

end EventProbe.Yaml
