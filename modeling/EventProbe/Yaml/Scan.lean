import EventProbe.Yaml.Property

/-!
# The YAML scanner

Turns a text into tokens. Blocks are delimited by indentation: a column greater than that of the
enclosing block opens a block, a smaller one closes blocks. Whether a scalar is the key of a mapping
is known only when the colon after it is seen; until then the place before it is remembered, and the
tokens that begin the key, and the mapping if need be, are put there afterwards.
-/

namespace EventProbe.Yaml

/-- A place where a key without `?` may have begun. -/
structure SimpleKey where
  /-- Whether something else would be wrong there. -/
  required : Bool
  /-- Number of tokens before it. -/
  number : Nat
  line : Nat
  column : Nat

structure Scanner where
  cursor : Cursor
  /-- The tokens found, newest first, and their number. -/
  tokens : List Token
  count : Nat
  /-- Column of the innermost block, -1 outside of all blocks. -/
  indent : Int
  /-- Columns of the blocks around it. -/
  indents : List Int
  /-- The key that may have begun on the present level of flow collections. -/
  key : Option SimpleKey
  /-- The same for the levels around it; there are as many as enclosing flow collections. -/
  outerKeys : List (Option SimpleKey)
  /-- Whether a key without `?` may begin here. -/
  keyAllowed : Bool

namespace Scanner

def start (c : Cursor) : Scanner :=
  ⟨c, [], 0, -1, [], none, [], true⟩

def inFlow (s : Scanner) : Bool :=
  !s.outerKeys.isEmpty

def emit (s : Scanner) (t : Token) : Scanner :=
  { s with tokens := t :: s.tokens, count := s.count + 1 }

/-- Puts a token after the first `number` tokens. -/
def insert (s : Scanner) (number : Nat) (t : Token) : Scanner :=
  { s with tokens := s.tokens.insertIdx (s.count - number) t, count := s.count + 1 }

/-- Closes the blocks whose columns are greater than the given one. -/
def unroll (s : Scanner) (column : Int) : Scanner :=
  if s.inFlow then s
  else
    let rec close : List Int → Int → Scanner → Scanner
      | [], indent, s => { s with indent, indents := [] }
      | outer :: rest, indent, s =>
        if column < indent then close rest outer (s.emit .blockEnd)
        else { s with indent, indents := outer :: rest }
    close s.indents s.indent s

/-- Opens a block with the given column if it is greater than that of the innermost one. -/
def roll (s : Scanner) (column : Nat) (number : Nat) (t : Token) : Scanner :=
  if s.inFlow || !decide (s.indent < (column : Int)) then s
  else ({ s with indents := s.indent :: s.indents, indent := column }).insert number t

/-- Gives up the key that may have begun, unless something must be a key there. -/
def dropKey (s : Scanner) : Option Scanner :=
  match s.key with
  | some k => if k.required then none else some { s with key := none }
  | none => some s

def saveKey (s : Scanner) : Option Scanner :=
  if s.keyAllowed then do
    let s ← s.dropKey
    let required := !s.inFlow && s.indent == (s.cursor.column : Int)
    some { s with key := some ⟨required, s.count, s.cursor.line, s.cursor.column⟩ }
  else some s

/-- Whether a key that began there may end here: on the same line and within 1024 characters. -/
def inReach (s : Scanner) (k : SimpleKey) : Bool :=
  k.line == s.cursor.line && decide (s.cursor.column ≤ k.column + 1024)

/-- Passes over blanks, comments and line ends. Tabs may not stand where a key may begin in a
block. -/
def skipGap : List Char → Nat → Nat → Bool → Bool → Bool → Cursor × Bool
  | [], line, column, _, allowed, _ => (⟨[], line, column⟩, allowed)
  | c :: rest, line, column, flow, allowed, comment =>
    if isBreak c then skipGap rest (line + 1) 0 flow (allowed || !flow) false
    else if comment || c == ' ' || (c == '\t' && (flow || !allowed)) then
      skipGap rest line (column + 1) flow allowed comment
    else if c == '#' then skipGap rest line (column + 1) flow allowed true
    else (⟨c :: rest, line, column⟩, allowed)

def toNextToken (s : Scanner) : Scanner :=
  let (cursor, keyAllowed) :=
    skipGap s.cursor.rest s.cursor.line s.cursor.column s.inFlow s.keyAllowed false
  { s with cursor, keyAllowed }

def take (s : Scanner) (length : Nat) (t : Token) : Scanner :=
  ({ s with cursor := s.cursor.skip length }).emit t

def emitAt (s : Scanner) (t : Token) (cursor : Cursor) : Scanner :=
  ({ s with cursor }).emit t

def outside (s : Scanner) : Option Scanner := do
  let s ← (s.unroll (-1)).dropKey
  some { s with keyAllowed := false }

def openFlow (s : Scanner) (t : Token) : Option Scanner := do
  let s ← s.saveKey
  some (({ s with outerKeys := s.key :: s.outerKeys, key := none, keyAllowed := true }).take 1 t)

def closeFlow (s : Scanner) (t : Token) : Option Scanner := do
  let s ← s.dropKey
  let s := match s.outerKeys with
    | k :: rest => { s with key := k, outerKeys := rest }
    | [] => s
  some (({ s with keyAllowed := false }).take 1 t)

def flowEntry (s : Scanner) : Option Scanner := do
  let s ← s.dropKey
  some (({ s with keyAllowed := true }).take 1 .flowEntry)

def blockEntry (s : Scanner) : Option Scanner := do
  if !s.inFlow && !s.keyAllowed then none
  else
    let s ← (s.roll s.cursor.column s.count .blockSequenceStart).dropKey
    some (({ s with keyAllowed := true }).take 1 .blockEntry)

def explicitKey (s : Scanner) : Option Scanner := do
  if !s.inFlow && !s.keyAllowed then none
  else
    let s ← (s.roll s.cursor.column s.count .blockMappingStart).dropKey
    some (({ s with keyAllowed := !s.inFlow }).take 1 .key)

/-- The colon before a value. If a key began before it, its tokens are put in their place. -/
def mappingValue (s : Scanner) : Option Scanner :=
  match s.key.filter s.inReach with
  | some k =>
    let s := (s.insert k.number .key).roll k.column k.number .blockMappingStart
    some (({ s with key := none, keyAllowed := false }).take 1 .value)
  | none =>
    if (s.key.map (·.required)).getD false then none
    else
      let s := { s with key := none }
      if s.inFlow then some (({ s with keyAllowed := false }).take 1 .value)
      else if !s.keyAllowed then none
      else
        let s := s.roll s.cursor.column s.count .blockMappingStart
        some (({ s with keyAllowed := true }).take 1 .value)

def keyPart (s : Scanner) (read : Cursor → Option (Token × Cursor)) : Option Scanner := do
  let s ← s.saveKey
  let (token, cursor) ← read s.cursor
  some (({ s with keyAllowed := false }).emitAt token cursor)

def named (s : Scanner) (token : List Char → Token) : Option Scanner :=
  s.keyPart fun c => (anchorName (c.skip 1)).map fun (name, c) => (token name, c)

def quoted (s : Scanner) (single : Bool) : Option Scanner :=
  s.keyPart fun c => (quotedScalar single c).map fun (text, c) =>
    (.scalar (if single then .singleQuoted else .doubleQuoted) text, c)

def block (s : Scanner) (literal : Bool) : Option Scanner := do
  let s ← s.dropKey
  let (text, cursor) ← blockScalar literal s.indent s.cursor
  some (({ s with keyAllowed := true }).emitAt
    (.scalar (if literal then .literal else .folded) text) cursor)

/-- A plain scalar. A key may begin after it if it ends with a line. -/
def plain (s : Scanner) : Option Scanner := do
  let s ← s.saveKey
  let p ← plainScalar s.inFlow (s.indent + 1) s.cursor
  some (({ s with keyAllowed := p.broken }).emitAt (.scalar .plain p.text) p.cursor)

def beginsPlain (flow : Bool) (c : Char) (rest : List Char) : Bool :=
  !(isBlank c || isBreak c || "-?:,[]\x7b\x7d#&*!|>'\"%@`".toList.contains c)
    || (c == '-' && !((rest.head?.map isBlank).getD false))
    || (!flow && (c == '?' || c == ':') && !blankNext rest)

def token (s : Scanner) (c : Char) (rest : List Char) : Option Scanner :=
  let flow := s.inFlow
  let column := s.cursor.column
  let input := c :: rest
  if column == 0 && c == '%' then do
    let s ← s.outside
    let (token, cursor) ← directive s.cursor
    some (s.emitAt token cursor)
  else if column == 0 && isMarker '-' input then s.outside.map (·.take 3 .documentStart)
  else if column == 0 && isMarker '.' input then s.outside.map (·.take 3 .documentEnd)
  else if c == '[' then s.openFlow .flowSequenceStart
  else if c == '\x7b' then s.openFlow .flowMappingStart
  else if c == ']' then s.closeFlow .flowSequenceEnd
  else if c == '\x7d' then s.closeFlow .flowMappingEnd
  else if c == ',' then s.flowEntry
  else if c == '-' && blankNext rest then s.blockEntry
  else if c == '?' && (flow || blankNext rest) then s.explicitKey
  else if c == ':' && (flow || blankNext rest) then s.mappingValue
  else if c == '*' then s.named .alias
  else if c == '&' then s.named .anchor
  else if c == '!' then s.keyPart (readTag flow)
  else if c == '|' && !flow then s.block true
  else if c == '>' && !flow then s.block false
  else if c == '\'' then s.quoted true
  else if c == '"' then s.quoted false
  else if beginsPlain flow c rest then s.plain
  else none

/-- The tokens up to the end of the text. One step is enough for every character and the end. -/
def run : Nat → Scanner → Option (List Token)
  | 0, _ => none
  | steps + 1, s =>
    let s := s.toNextToken
    let s := s.unroll s.cursor.column
    match s.cursor.rest with
    | [] => (s.outside).map fun s => s.tokens.reverse
    | c :: rest =>
      match s.token c rest with
      | some s => run steps s
      | none => none

end Scanner

def scan (text : String) : Option (List Token) := do
  let c ← openText text.toList
  Scanner.run (c.rest.length + 1) (Scanner.start c)

end EventProbe.Yaml
