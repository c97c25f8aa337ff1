/-!
# Decimal numerals

Unsigned 64-bit numbers as they are written in field arguments, event data and options: digits
with an optional leading `+`.
-/

namespace EventProbe

/-- Two to the power 64: one more than the greatest unsigned 64-bit number. -/
def wordLimit : Nat := 18446744073709551616

/-- Two to the power 32: one more than the greatest unsigned 32-bit number. -/
def halfWordLimit : Nat := 4294967296

namespace Numeral

inductive Fault where
  | empty
  | invalidDigit
  | tooLarge
  deriving DecidableEq, Repr

def Fault.message : Fault → String
  | .empty => "cannot parse integer from empty string"
  | .invalidDigit => "invalid digit found in string"
  | .tooLarge => "number too large to fit in target type"

def digit? (c : Char) : Option Nat :=
  if '0' ≤ c ∧ c ≤ '9' then some (c.toNat - 48) else none

/-- Reads the remaining digits after a value. A wrong character is reported even where the number
is too large already at that place. -/
def digits : List Char → Nat → Except Fault Nat
  | [], n => .ok n
  | c :: rest, n =>
    match digit? c with
    | none => .error .invalidDigit
    | some d => if n * 10 + d < wordLimit then digits rest (n * 10 + d) else .error .tooLarge

def read : List Char → Except Fault Nat
  | [] => .error .empty
  | ['+'] => .error .invalidDigit
  | '+' :: rest => digits rest 0
  | chars => digits chars 0

def parse (text : String) : Except Fault Nat :=
  read text.toList

def parse? (text : String) : Option Nat :=
  (parse text).toOption

end Numeral

/-- The digits of a number in base 16, lower case. -/
def hexDigits (n : Nat) : String :=
  String.ofList (Nat.toDigits 16 n)

/-- A number with at least `width` digits, padded with zeros. -/
def padded (width n : Nat) : String :=
  let digits := Nat.toDigits 10 n
  String.ofList (List.replicate (width - digits.length) '0' ++ digits)

end EventProbe
