import EventProbe.Yaml.Scalar
import EventProbe.Yaml.Token

/-!
# YAML tags, anchors and directives

The lexemes that are neither scalars nor indicators. Escapes in the names of tags are octets in
hexadecimal, which together must look like UTF-8.
-/

namespace EventProbe.Yaml

/-- Whether the number of octets of a character follows from its first one; how many. -/
def octets (first : Nat) : Option Nat :=
  if first < 0x80 then some 1
  else if first / 0x20 == 6 then some 2
  else if first / 0x10 == 14 then some 3
  else if first / 8 == 30 then some 4
  else none

def isTagChar (verbatim : Bool) (c : Char) : Bool :=
  isWord c || ";/?:@&=+$.!~*'()".toList.contains c || (verbatim && ",[]".toList.contains c)

inductive TagMode where
  | plain
  /-- After a percent sign. -/
  | percent
  /-- After the first digit of an octet. -/
  | digit (high : Nat)
  /-- Between the octets of one character. -/
  | between

/-- Reads the rest of a tag. `owed` is the number of octets that the present character still needs.
None if an escape is not well formed. -/
def tagTail (verbatim : Bool) :
    List Char → Nat → TagMode → Nat → List UInt8 → Option (List UInt8 × List Char × Nat)
  | [], count, .plain, _, found => some (found.reverse, [], count)
  | [], _, _, _, _ => none
  | c :: rest, count, .plain, _, found =>
    if c == '%' then tagTail verbatim rest (count + 1) .percent 0 found
    else if isTagChar verbatim c then
      tagTail verbatim rest (count + 1) .plain 0 (UInt8.ofNat c.toNat :: found)
    else some (found.reverse, c :: rest, count)
  | c :: rest, count, .percent, owed, found =>
    match hexValue c with
    | some d => tagTail verbatim rest (count + 1) (.digit d) owed found
    | none => none
  | c :: rest, count, .digit high, owed, found =>
    match hexValue c with
    | none => none
    | some d =>
      let octet := high * 16 + d
      let left := if owed == 0 then (octets octet).map (· - 1)
        else if octet / 0x40 == 2 then some (owed - 1) else none
      match left with
      | none => none
      | some left =>
        let mode := if left == 0 then .plain else .between
        tagTail verbatim rest (count + 1) mode left (UInt8.ofNat octet :: found)
  | c :: rest, count, .between, owed, found =>
    if c == '%' then tagTail verbatim rest (count + 1) .percent owed found else none

/-- Reads the characters of a tag; none if there are none and nothing stands before them. -/
def tagText (verbatim : Bool) (prior : List Char) (c : Cursor) : Option (List UInt8 × Cursor) := do
  let (found, _, count) ← tagTail verbatim c.rest 0 .plain 0 []
  if count == 0 && prior.isEmpty then none
  else some ((prior.drop 1).map (UInt8.ofNat ·.toNat) ++ found, c.skip count)

/-- Reads `!`, word characters, and another `!` if there is one. -/
def tagHandle (c : Cursor) : Option (List Char × Cursor) :=
  match c.rest with
  | '!' :: rest =>
    let word := rest.takeWhile isWord
    match rest.drop word.length with
    | '!' :: _ => some ('!' :: word ++ ['!'], c.skip (word.length + 2))
    | _ => some ('!' :: word, c.skip (word.length + 1))
  | _ => none

def ascii (chars : List Char) : List UInt8 :=
  chars.map fun c => UInt8.ofNat c.toNat

/-- Reads a tag: verbatim between angle brackets, or a handle with a suffix, or a suffix alone. A
lone `!` has no handle. -/
def readTag (flow : Bool) (c : Cursor) : Option (Token × Cursor) := do
  let (token, c) ← match c.rest with
    | '!' :: '<' :: _ => do
      let (text, c) ← tagText true [] (c.skip 2)
      match c.rest with
      | '>' :: _ => some (Token.tag [] text, c.skip 1)
      | _ => none
    | _ => do
      let (handle, after) ← tagHandle c
      if 1 < handle.length && handle.getLast? == some '!' then
        let (suffix, c) ← tagText false [] after
        some (Token.tag (ascii handle) suffix, c)
      else
        let (suffix, c) ← tagText false handle after
        some (if suffix.isEmpty then Token.tag [] (ascii ['!'])
          else Token.tag (ascii ['!']) suffix, c)
  if blankNext c.rest || (flow && c.rest.head? == some ',') then some (token, c) else none

def afterAnchor (rest : List Char) : Bool :=
  blankNext rest || (rest.head?.map fun c => "?:,]\x7d%@`".toList.contains c).getD false

/-- Reads the name of an anchor or an alias after its first character. -/
def anchorName (c : Cursor) : Option (List Char × Cursor) :=
  let (name, c) := c.takeWhile isWord
  if name.isEmpty || !afterAnchor c.rest then none else some (name, c)

def versionNumber (c : Cursor) : Option (Nat × Cursor) :=
  let (digits, c) := c.takeWhile fun x => (Numeral.digit? x).isSome
  if digits.isEmpty || 9 < digits.length then none
  else some (digits.foldl (fun n x => n * 10 + (x.toNat - 48)) 0, c)

def versionDirective (c : Cursor) : Option (Token × Cursor) := do
  let (major, c) ← versionNumber c.skipBlanks
  match c.rest with
  | '.' :: _ => do
    let (minor, c) ← versionNumber (c.skip 1)
    some (.versionDirective major minor, c)
  | _ => none

def tagDirective (c : Cursor) : Option (Token × Cursor) := do
  let (handle, c) ← tagHandle c.skipBlanks
  if 1 < handle.length && handle.getLast? != some '!' then none
  else match c.rest with
    | x :: _ =>
      if isBlank x then do
        let (uri, c) ← tagText true [] c.skipBlanks
        if blankNext c.rest then some (.tagDirective (ascii handle) uri, c) else none
      else none
    | [] => none

/-- Reads a directive from its first character, to the end of its line. -/
def directive (c : Cursor) : Option (Token × Cursor) := do
  let (name, c) := (c.skip 1).takeWhile isWord
  if name.isEmpty || !blankNext c.rest then none
  else
    let (token, c) ← if name == "YAML".toList then versionDirective c
      else if name == "TAG".toList then tagDirective c
      else none
    some (token, ← c.endLine)

end EventProbe.Yaml
