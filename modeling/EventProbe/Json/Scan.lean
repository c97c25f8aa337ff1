import EventProbe.Json.Fault
import EventProbe.Text.Numeral

/-!
# JSON lexemes

Blanks, literal names, numbers and strings. Every function takes what is left of the input and
returns what is left after the lexeme.
-/

namespace EventProbe.Json

/-- A reader of one value: the value and what is left, or a fault. -/
abbrev Reader (α : Type) := List Char → Except Fault (α × List Char)

def isSpace (c : Char) : Bool :=
  c == ' ' || c == '\n' || c == '\t' || c == '\r'

def skipSpace (rest : List Char) : List Char :=
  rest.dropWhile isSpace

def isDigit (c : Char) : Bool :=
  decide ('0' ≤ c ∧ c ≤ '9')

def digitNext : List Char → Bool
  | c :: _ => isDigit c
  | [] => false

def exponentNext : List Char → Bool
  | 'e' :: _ => true
  | 'E' :: _ => true
  | _ => false

def literal : List Char → List Char → Except Fault (List Char)
  | [], rest => .ok rest
  | _ :: _, [] => .error (here .endInValue [])
  | c :: name, d :: rest =>
    if c = d then literal name rest else .error (ahead .expectedIdent (d :: rest))

/-! ## Numbers -/

/-- A number as it is written: a natural number, minus a natural number, or the bits of a 64-bit
floating-point number. -/
inductive Number where
  | natural (n : Nat)
  | negative (n : Nat)
  | real (bits : Nat)
  deriving DecidableEq, Repr

def Number.found : Number → Found
  | .natural n => .natural n
  | .negative n => .negative n
  | .real bits => .real bits

/-- Reads digits into a number for as long as it fits in a word; also counts them. -/
def wordDigits : Nat → Nat → List Char → Nat × Nat × List Char
  | n, count, c :: rest =>
    if isDigit c ∧ n * 10 + (c.toNat - 48) < wordLimit then
      wordDigits (n * 10 + (c.toNat - 48)) (count + 1) rest
    else (n, count, c :: rest)
  | n, count, [] => (n, count, [])

def countDigits (rest : List Char) : Nat :=
  (rest.takeWhile isDigit).length

def skipDigits (rest : List Char) : List Char :=
  rest.dropWhile isDigit

/-- The magnitude bits of the product of a magnitude with a power of ten, each rounded. -/
def scaleUp (magnitude power : Nat) : Nat :=
  let (num, den) := Ieee.double.ratio magnitude
  let (num', den') := Ieee.double.ratio (Ieee.double.nearest (Nat.pow 10 power) 1)
  Ieee.double.nearest (num * num') (den * den')

/-- The magnitude bits of the quotient of a magnitude by a power of ten, each rounded. -/
def scaleDown (magnitude power : Nat) : Nat :=
  let (num, den) := Ieee.double.ratio magnitude
  let (num', den') := Ieee.double.ratio (Ieee.double.nearest (Nat.pow 10 power) 1)
  Ieee.double.nearest (num * den') (den * num')

/-- The magnitude bits of a word times a power of ten, none when out of range. Powers are taken in
steps of at most 308; after three downward steps nothing is left. -/
def scaled : Nat → Nat → Int → Option Nat
  | steps, magnitude, exponent =>
    if exponent.natAbs ≤ 308 then
      if 0 ≤ exponent then
        let product := scaleUp magnitude exponent.toNat
        if product < Ieee.double.infinity then some product else none
      else some (scaleDown magnitude exponent.natAbs)
    else if magnitude = 0 then some 0
    else if 0 ≤ exponent then none
    else match steps with
      | 0 => some 0
      | steps + 1 => scaled steps (scaleDown magnitude 308) (exponent + 308)

def realNumber (negative : Bool) (significand : Nat) (exponent : Int) : Reader Number :=
  fun rest =>
    match scaled 3 (Ieee.double.nearest significand 1) exponent with
    | some magnitude => .ok (.real (Ieee.double.signed negative magnitude), rest)
    | none => .error (here .numberOutOfRange rest)

/-- Two to the power 31: one more than the largest exponent that is read. -/
def exponentLimit : Nat := 2147483648

/-- Reads exponent digits into a number; none when it grows past the largest exponent, at the digit
that makes it do so. -/
def exponentDigits : Nat → List Char → Option Nat × List Char
  | n, c :: rest =>
    if isDigit c then
      let n := n * 10 + (c.toNat - 48)
      if n < exponentLimit then exponentDigits n rest else (none, rest)
    else (some n, c :: rest)
  | n, [] => (some n, [])

def exponentPart (negative : Bool) (significand : Nat) (exponent : Int) : Reader Number :=
  fun rest =>
    let (down, rest) := match rest with
      | '+' :: rest => (false, rest)
      | '-' :: rest => (true, rest)
      | rest => (false, rest)
    match rest with
    | [] => .error (here .endInValue [])
    | c :: _ =>
      if isDigit c then
        match exponentDigits 0 rest with
        | (some e, rest) =>
          realNumber negative significand (if down then exponent - e else exponent + e) rest
        | (none, rest) =>
          if significand ≠ 0 ∧ !down then .error (here .numberOutOfRange rest)
          else .ok (.real (Ieee.double.signed negative 0), skipDigits rest)
      else .error (ahead .invalidNumber rest)

def realTail (negative : Bool) (significand : Nat) (exponent : Int) : Reader Number :=
  fun rest =>
    if exponentNext rest then exponentPart negative significand exponent (rest.drop 1)
    else realNumber negative significand exponent rest

/-- Reads what follows a decimal point. Digits that no longer fit in the significand are dropped. -/
def fractionPart (negative : Bool) (significand : Nat) (exponent : Int) : Reader Number :=
  fun rest =>
    let (significand, count, rest) := wordDigits significand 0 rest
    if digitNext rest then
      realTail negative significand (exponent - count) (skipDigits rest)
    else if count = 0 then
      .error (ahead (if rest.isEmpty then .endInValue else .invalidNumber) rest)
    else realTail negative significand (exponent - count) rest

def numberTail (negative : Bool) (significand : Nat) : Reader Number :=
  fun rest =>
    match rest with
    | '.' :: rest => fractionPart negative significand 0 rest
    | rest =>
      if exponentNext rest then exponentPart negative significand 0 (rest.drop 1)
      else if !negative then .ok (.natural significand, rest)
      else if significand = 0 ∨ 9223372036854775808 < significand then
        .ok (.real (Ieee.double.signed true (Ieee.double.nearest significand 1)), rest)
      else .ok (.negative significand, rest)

def number (negative : Bool) : Reader Number :=
  fun rest =>
    match rest with
    | [] => .error (here .endInValue [])
    | '0' :: rest =>
      if digitNext rest then .error (ahead .invalidNumber rest) else numberTail negative 0 rest
    | c :: _ =>
      if isDigit c then
        let (significand, _, rest) := wordDigits 0 0 rest
        if digitNext rest then
          let exponent := countDigits rest
          match skipDigits rest with
          | '.' :: rest => fractionPart negative significand exponent rest
          | rest => realTail negative significand exponent rest
        else numberTail negative significand rest
      else .error (ahead .invalidNumber rest)

/-! ## Strings -/

def hexValue (c : Char) : Option Nat :=
  if '0' ≤ c ∧ c ≤ '9' then some (c.toNat - 48)
  else if 'a' ≤ c ∧ c ≤ 'f' then some (c.toNat - 87)
  else if 'A' ≤ c ∧ c ≤ 'F' then some (c.toNat - 55)
  else none

/-- Where a reader of a string stands. -/
inductive StringMode where
  | plain
  | escape
  /-- After so many digits of a `\u` escape with that value, the second of a pair if a high
  surrogate is given. -/
  | unit (high : Option Nat) (count value : Nat)
  | pair (high : Nat)
  /-- After a high surrogate and a backslash. -/
  | pairEscape (high : Nat)

def shortEscape : Char → Option Char
  | '"' => some '"'
  | '\\' => some '\\'
  | '/' => some '/'
  | 'b' => some '\x08'
  | 'f' => some '\x0c'
  | 'n' => some '\n'
  | 'r' => some '\r'
  | 't' => some '\t'
  | _ => none

/-- The fault of a `\u` escape of which `count` digits were read: the four bytes after `\u` are
taken together. -/
def hexFault (count : Nat) (rest : List Char) : Fault :=
  if 4 ≤ count + Utf8.width rest then ⟨.invalidEscape, some (count + Utf8.width rest - 4)⟩
  else ⟨.endInString, some 0⟩

/-- What the four digits of a `\u` escape lead to: the next mode, with a character if one is
complete. -/
def unitDone (high : Option Nat) (value : Nat) : Except Code (StringMode × Option Char) :=
  match high with
  | none =>
    if 0xDC00 ≤ value ∧ value ≤ 0xDFFF then .error .loneSurrogate
    else if 0xD800 ≤ value ∧ value ≤ 0xDBFF then .ok (.pair value, none)
    else .ok (.plain, some (Char.ofNat value))
  | some high =>
    if 0xDC00 ≤ value ∧ value ≤ 0xDFFF then
      .ok (.plain, some (Char.ofNat (0x10000 + (high - 0xD800) * 0x400 + (value - 0xDC00))))
    else .error .loneSurrogate

def stringTail : List Char → StringMode → List Char → Except Fault (String × List Char)
  | [], _, _ => .error (here .endInString [])
  | c :: rest, .plain, found =>
    if c = '"' then .ok (String.ofList found.reverse, rest)
    else if c = '\\' then stringTail rest .escape found
    else if c.toNat < 0x20 then .error (here .controlCharacter rest)
    else stringTail rest .plain (c :: found)
  | c :: rest, .escape, found =>
    if c = 'u' then stringTail rest (.unit none 0 0) found
    else match shortEscape c with
      | some d => stringTail rest .plain (d :: found)
      | none => .error (ahead .invalidEscape (c :: rest))
  | c :: rest, .unit high count value, found =>
    match hexValue c with
    | none => .error (hexFault count (c :: rest))
    | some d =>
      if count < 3 then stringTail rest (.unit high (count + 1) (value * 16 + d)) found
      else match unitDone high (value * 16 + d) with
        | .ok (mode, some e) => stringTail rest mode (e :: found)
        | .ok (mode, none) => stringTail rest mode found
        | .error code => .error (here code rest)
  | c :: rest, .pair high, found =>
    if c = '\\' then stringTail rest (.pairEscape high) found
    else .error (ahead .endOfHexEscape (c :: rest))
  | c :: rest, .pairEscape high, found =>
    if c = 'u' then stringTail rest (.unit (some high) 0 0) found
    else .error (ahead .endOfHexEscape (c :: rest))

def string : Reader String :=
  fun rest => stringTail rest .plain []

/-- What is reported where something else than what comes next was expected: the next lexeme is
read if it is a name, a number or a string. -/
def mismatch (expected : String) (rest : List Char) : Fault :=
  let named (found : Found) (name : String) (rest : List Char) : Fault :=
    match literal name.toList rest with
    | .ok rest => here (.invalidType found expected) rest
    | .error f => f
  let counted (result : Except Fault (Number × List Char)) : Fault :=
    match result with
    | .ok (n, rest) => here (.invalidType n.found expected) rest
    | .error f => f
  match rest with
  | 'n' :: rest => named .null "ull" rest
  | 't' :: rest => named (.boolean true) "rue" rest
  | 'f' :: rest => named (.boolean false) "alse" rest
  | '-' :: rest => counted (number true rest)
  | '"' :: rest =>
    match string rest with
    | .ok (s, rest) => here (.invalidType (.text s) expected) rest
    | .error f => f
  | '[' :: _ => here (.invalidType .list expected) rest
  | '\x7b' :: _ => here (.invalidType .object expected) rest
  | c :: _ => if isDigit c then counted (number false rest) else ahead .expectedValue rest
  | [] => ahead .expectedValue []

end EventProbe.Json
