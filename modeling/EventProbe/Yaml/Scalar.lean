import EventProbe.Yaml.Cursor
import EventProbe.Text.Numeral

/-!
# YAML scalars

The texts of plain, quoted and block scalars. Line breaks inside plain and quoted scalars are
folded: a single one becomes a blank, and of several the first is dropped.
-/

namespace EventProbe.Yaml

/-- Blanks and line breaks that were read but not yet joined to the text of a scalar. -/
structure Gap where
  /-- Blanks before the first break, newest first. -/
  blanks : List Char
  /-- Whether a break was read, or skipped after a backslash. -/
  broken : Bool
  /-- The first break. -/
  first : Option Char
  /-- The breaks after it, newest first. -/
  more : List Char

namespace Gap

def none : Gap := ⟨[], false, .none, []⟩

/-- After a blank or a tab. Blanks after a break do not count. -/
def blank (g : Gap) (c : Char) : Gap :=
  if g.broken then g else { g with blanks := c :: g.blanks }

def addBreak (g : Gap) (c : Char) : Gap :=
  if g.broken then { g with more := c :: g.more }
  else ⟨[], true, some c, []⟩

def join (g : Gap) (text : List Char) : List Char :=
  if g.broken then
    if g.first == some '\n' then (if g.more.isEmpty then ' ' :: text else g.more ++ text)
    else g.more ++ g.first.toList ++ text
  else g.blanks ++ text

end Gap

/-! ## Plain scalars -/

def isFlowIndicator (c : Char) : Bool :=
  c == ',' || c == '[' || c == ']' || c == '\x7b' || c == '\x7d'

/-- A plain scalar that was read: its text, whether it ends after a line break, and the cursor after
it and the blanks behind it. -/
structure PlainScalar where
  text : String
  broken : Bool
  cursor : Cursor

/-- The scalar whose characters were read, newest first, with the gap behind it. -/
def PlainScalar.ofRead (text : List Char) (gap : Gap) (cursor : Cursor) : PlainScalar :=
  ⟨String.ofList text.reverse, gap.broken, cursor⟩

/-- Reads the rest of a plain scalar. `indent` is the least column of its further lines in a block,
`fresh` tells that blanks were just passed. None if the scalar is not well formed. -/
def plainTail (flow : Bool) (indent : Int) :
    List Char → Nat → Nat → Bool → Gap → List Char → Option PlainScalar
  | [], line, column, _, gap, text =>
    some (.ofRead text gap ⟨[], line, column⟩)
  | c :: rest, line, column, fresh, gap, text =>
    if isBreak c then plainTail flow indent rest (line + 1) 0 true (gap.addBreak c) text
    else if isBlank c then
      if gap.broken && decide ((column : Int) < indent) && c == '\t' then none
      else plainTail flow indent rest line (column + 1) true (gap.blank c) text
    else if fresh && ((!flow && decide ((column : Int) < indent)) || c == '#'
        || (column == 0 && documentMarker (c :: rest))) then
      some (.ofRead text gap ⟨c :: rest, line, column⟩)
    else if flow && c == ':' && ((rest.head?.map fun d => isFlowIndicator d || d == '?').getD false)
      then none
    else if (c == ':' && blankNext rest) || (flow && isFlowIndicator c) then
      some (.ofRead text gap ⟨c :: rest, line, column⟩)
    else plainTail flow indent rest line (column + 1) false Gap.none (c :: gap.join text)

def plainScalar (flow : Bool) (indent : Int) (c : Cursor) : Option PlainScalar :=
  plainTail flow indent c.rest c.line c.column false Gap.none []

/-! ## Quoted scalars -/

inductive QuoteMode where
  | plain
  /-- After a quote in a single quoted scalar. -/
  | quote
  /-- After a backslash. -/
  | escape
  /-- After the letter of a numeric escape, with so many digits to come. -/
  | code (left value : Nat)

def shortEscape : Char → Option Char
  | '0' => some '\x00'
  | 'a' => some '\x07'
  | 'b' => some '\x08'
  | 't' => some '\t'
  | '\t' => some '\t'
  | 'n' => some '\n'
  | 'v' => some '\x0b'
  | 'f' => some '\x0c'
  | 'r' => some '\r'
  | 'e' => some '\x1b'
  | ' ' => some ' '
  | '"' => some '"'
  | '/' => some '/'
  | '\\' => some '\\'
  | 'N' => some '\u0085'
  | '_' => some '\u00a0'
  | 'L' => some '\u2028'
  | 'P' => some '\u2029'
  | _ => none

def codeLength : Char → Option Nat
  | 'x' => some 2
  | 'u' => some 4
  | 'U' => some 8
  | _ => none

def hexValue (c : Char) : Option Nat :=
  if '0' ≤ c ∧ c ≤ '9' then some (c.toNat - 48)
  else if 'a' ≤ c ∧ c ≤ 'f' then some (c.toNat - 87)
  else if 'A' ≤ c ∧ c ≤ 'F' then some (c.toNat - 55)
  else none

def charOf (n : Nat) : Option Char :=
  if n < 0xD800 ∨ (0xDFFF < n ∧ n ≤ 0x10FFFF) then some (Char.ofNat n) else none

/-- Reads the rest of a quoted scalar. None if it is not well formed. -/
def quotedTail (single : Bool) :
    List Char → Nat → Nat → QuoteMode → Gap → List Char → Option (String × Cursor)
  | [], line, column, .quote, _, text => some (String.ofList text.reverse, ⟨[], line, column⟩)
  | [], _, _, _, _, _ => none
  | c :: rest, line, column, .plain, gap, text =>
    if column == 0 && documentMarker (c :: rest) then none
    else if isBreak c then quotedTail single rest (line + 1) 0 .plain (gap.addBreak c) text
    else if isBlank c then quotedTail single rest line (column + 1) .plain (gap.blank c) text
    else
      let text := gap.join text
      if single && c == '\'' then quotedTail single rest line (column + 1) .quote Gap.none text
      else if !single && c == '"' then
        some (String.ofList text.reverse, ⟨rest, line, column + 1⟩)
      else if !single && c == '\\' then
        quotedTail single rest line (column + 1) .escape Gap.none text
      else quotedTail single rest line (column + 1) .plain Gap.none (c :: text)
  | c :: rest, line, column, .quote, _, text =>
    if c == '\'' then quotedTail single rest line (column + 1) .plain Gap.none (c :: text)
    else some (String.ofList text.reverse, ⟨c :: rest, line, column⟩)
  | c :: rest, line, column, .escape, _, text =>
    if isBreak c then quotedTail single rest (line + 1) 0 .plain ⟨[], true, none, []⟩ text
    else match codeLength c with
      | some n => quotedTail single rest line (column + 1) (.code n 0) Gap.none text
      | none =>
        match shortEscape c with
        | some d => quotedTail single rest line (column + 1) .plain Gap.none (d :: text)
        | none => none
  | c :: rest, line, column, .code left value, _, text =>
    match hexValue c with
    | none => none
    | some d =>
      let value := value * 16 + d
      if 1 < left then
        quotedTail single rest line (column + 1) (.code (left - 1) value) Gap.none text
      else match charOf value with
        | some e => quotedTail single rest line (column + 1) .plain Gap.none (e :: text)
        | none => none

def quotedScalar (single : Bool) (c : Cursor) : Option (String × Cursor) :=
  let c := c.next
  quotedTail single c.rest c.line c.column .plain Gap.none []

/-! ## Block scalars -/

/-- What becomes of the line breaks at the end of a block scalar. -/
inductive Chomping where
  | strip
  | clip
  | keep
  deriving DecidableEq

structure Block where
  literal : Bool
  chomping : Chomping
  /-- Column of its lines; zero until it is known. -/
  indent : Nat
  /-- Least column its lines may have. -/
  least : Nat
  /-- Greatest column of the blank lines before its first line. -/
  widest : Nat
  /-- The text, newest first. -/
  text : List Char
  /-- The break that ended the last line. -/
  first : Option Char
  /-- The breaks after it, newest first. -/
  more : List Char
  /-- Whether the last line began with a blank. -/
  indented : Bool

namespace Block

def finish (b : Block) : String :=
  let text := match b.chomping with
    | .strip => b.text
    | .clip => b.first.toList ++ b.text
    | .keep => b.more ++ b.first.toList ++ b.text
  String.ofList text.reverse

/-- Whether a column lies before the lines of the scalar, as far as these are known. -/
def inMargin (b : Block) (column : Nat) : Bool :=
  b.indent == 0 || decide (column < b.indent)

/-- Fixes the column of the lines when the first of them is found. -/
def settle (b : Block) (column : Nat) : Block :=
  if b.indent == 0 then { b with indent := max (max b.widest column) b.least } else b

/-- Joins the breaks before a line that begins with a character. -/
def beginLine (b : Block) (c : Char) : Block :=
  let blank := isBlank c
  let folds := !b.literal && b.first == some '\n' && !b.indented && !blank
  let text := if folds then (if b.more.isEmpty then ' ' :: b.text else b.text)
    else b.first.toList ++ b.text
  { b with text := b.more ++ text, first := none, more := [], indented := blank }

end Block

/-- Reads the lines of a block scalar; `inLine` tells whether a line was begun. None if it is not
well formed. -/
def blockTail : List Char → Nat → Nat → Bool → Block → Option (String × Cursor)
  | [], line, column, _, b => some (b.finish, ⟨[], line, column⟩)
  | c :: rest, line, column, true, b =>
    if isBreak c then blockTail rest (line + 1) 0 false { b with first := some c }
    else blockTail rest line (column + 1) true { b with text := c :: b.text }
  | c :: rest, line, column, false, b =>
    if b.inMargin column && c == ' ' then blockTail rest line (column + 1) false b
    else if b.inMargin column && c == '\t' then none
    else if isBreak c then
      blockTail rest (line + 1) 0 false
        { b with widest := max b.widest column, more := c :: b.more }
    else
      let b := b.settle column
      if column == b.indent then
        let b := b.beginLine c
        blockTail rest line (column + 1) true { b with text := c :: b.text }
      else some (b.finish, ⟨c :: rest, line, column⟩)

def chompingOf : Char → Option Chomping
  | '+' => some .keep
  | '-' => some .strip
  | _ => none

/-- Reads the indicators of a block scalar after its first character: chomping and indentation, in
any order. An indentation of zero is not allowed. -/
def blockHeader (rest : List Char) : Option (Chomping × Nat × Nat) :=
  let chomping (rest : List Char) : Option Chomping := rest.head?.bind chompingOf
  let digit (rest : List Char) : Option Nat := rest.head?.bind Numeral.digit?
  match chomping rest with
  | some k =>
    match digit (rest.drop 1) with
    | some 0 => none
    | some n => some (k, n, 2)
    | none => some (k, 0, 1)
  | none =>
    match digit rest with
    | some 0 => none
    | some n =>
      match chomping (rest.drop 1) with
      | some k => some (k, n, 2)
      | none => some (.clip, n, 1)
    | none => some (.clip, 0, 0)

/-- Reads a block scalar from its first character, inside a block whose column is `parent`, or
-1. -/
def blockScalar (literal : Bool) (parent : Int) (c : Cursor) : Option (String × Cursor) := do
  let c := c.next
  let (chomping, increment, length) ← blockHeader c.rest
  let c ← (c.skip length).endLine
  let indent := if increment == 0 then 0 else (max parent 0).toNat + increment
  let least := max (parent + 1) 1
  blockTail c.rest c.line c.column false
    ⟨literal, chomping, indent, least.toNat, 0, [], none, [], false⟩

end EventProbe.Yaml
