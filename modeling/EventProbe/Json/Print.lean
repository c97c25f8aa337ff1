import EventProbe.Number.Shortest
import EventProbe.Text.Numeral

/-!
# Writing JSON

Compact texts: no blanks, members in a fixed order.
-/

namespace EventProbe.Json

def controlDigits (n : Nat) : List Char :=
  [Nat.digitChar (n / 16), Nat.digitChar (n % 16)]

def escaped (c : Char) : List Char :=
  match c with
  | '"' => ['\\', '"']
  | '\\' => ['\\', '\\']
  | '\x08' => ['\\', 'b']
  | '\x0c' => ['\\', 'f']
  | '\n' => ['\\', 'n']
  | '\r' => ['\\', 'r']
  | '\t' => ['\\', 't']
  | c => if c.toNat < 0x20 then '\\' :: 'u' :: '0' :: '0' :: controlDigits c.toNat else [c]

def printText (s : String) : List Char :=
  '"' :: s.toList.flatMap escaped ++ ['"']

def printNatural (n : Nat) : List Char :=
  Nat.toDigits 10 n

def printInteger (n : Int) : List Char :=
  if n < 0 then '-' :: Nat.toDigits 10 n.natAbs else Nat.toDigits 10 n.natAbs

/-- A floating-point number; what is not finite is `null`. -/
def printReal (format : Ieee.Format) (bits : Nat) : List Char :=
  ((format.text bits).getD "null").toList

def printBool (b : Bool) : List Char :=
  if b then "true".toList else "false".toList

def printMembers : List (String × List Char) → List Char
  | [] => []
  | [(key, value)] => printText key ++ ':' :: value
  | (key, value) :: rest => printText key ++ ':' :: value ++ ',' :: printMembers rest

def printObject (members : List (String × List Char)) : List Char :=
  '\x7b' :: printMembers members ++ ['\x7d']

end EventProbe.Json
