import EventProbe.Number.Ieee

/-!
# Shortest decimal form

A finite floating-point number is written with the fewest digits that read back as the same bits,
and among those with the digits nearest to the number.
-/

namespace EventProbe.Ieee

/-- A decimal number `digits * 10 ^ (exponent - bias)`. Zero has no digits. -/
structure Decimal where
  digits : Nat
  exponent : Int
  deriving DecidableEq, Repr

def tenTo (e : Int) : Nat × Nat :=
  if 0 ≤ e then (Nat.pow 10 e.toNat, 1) else (1, Nat.pow 10 (-e).toNat)

def Decimal.reads (f : Format) (d : Decimal) (magnitude : Nat) : Bool :=
  let (num, den) := tenTo d.exponent
  f.nearest (d.digits * num) den == magnitude

/-- The nearest of the two decimal numbers with a given last place around `num / den` that read
back as the bits of the magnitude, if one does. -/
def candidate (f : Format) (magnitude num den : Nat) (exponent : Int) : Option Decimal :=
  let (up, down) := tenTo exponent
  let n := num * down
  let d := den * up
  let below : Decimal := ⟨n / d, exponent⟩
  let above : Decimal := ⟨n / d + 1, exponent⟩
  let r := n % d
  let belowFirst := 2 * r < d || (2 * r == d && below.digits % 2 == 0)
  let (first, second) := if belowFirst then (below, above) else (above, below)
  if first.digits ≠ 0 && first.reads f magnitude then some first
  else if second.digits ≠ 0 && second.reads f magnitude then some second
  else none

/-- The first candidate as the last place moves down, for so many more places. -/
def search (f : Format) (magnitude num den : Nat) : Nat → Int → Decimal
  | 0, e => ⟨num * (tenTo e).2 / (den * (tenTo e).1), e⟩
  | n + 1, e =>
    match candidate f magnitude num den e with
    | some d => d
    | none => search f magnitude num den n (e - 1)

/-- Position of the first digit of `num / den` in decimal, or the place above it. -/
def leadingPlace (num den : Nat) : Int :=
  let whole := num / den
  if whole ≠ 0 then (Nat.toDigits 10 whole).length
  else 1 - (Nat.toDigits 10 (den / num)).length

/-- The shortest decimal form of a magnitude that is neither zero nor infinite. -/
def Format.shortest (f : Format) (magnitude : Nat) : Decimal :=
  let (num, den) := f.ratio magnitude
  search f magnitude num den 20 (leadingPlace num den)

def Decimal.normalize : Nat → Decimal → Decimal
  | 0, d => d
  | n + 1, d => if d.digits % 10 = 0 then normalize n ⟨d.digits / 10, d.exponent + 1⟩ else d

/-- Writes digits whose first has the weight `10 ^ place`: with a decimal point when the place lies
between the bounds, else with an exponent. -/
def layout (low high : Int) (d : Decimal) : String :=
  let digits := Nat.toDigits 10 d.digits
  let count : Int := digits.length
  let place := d.exponent + count - 1
  if low ≤ place && place ≤ high then
    if 0 ≤ d.exponent then
      String.ofList (digits ++ List.replicate d.exponent.toNat '0') ++ ".0"
    else if 0 ≤ place then
      String.ofList (digits.take (place + 1).toNat) ++ "."
        ++ String.ofList (digits.drop (place + 1).toNat)
    else
      "0." ++ String.ofList (List.replicate (-place - 1).toNat '0' ++ digits)
  else
    let tail := if digits.length = 1 then "" else "." ++ String.ofList (digits.drop 1)
    let sign := if place < 0 then "-" else "+"
    String.ofList (digits.take 1) ++ tail ++ "e" ++ sign ++ toString place.natAbs

def Format.widest (f : Format) : Int :=
  if f.fraction ≤ 23 then 12 else 15

def Format.narrowest (f : Format) : Int :=
  if f.fraction ≤ 23 then -6 else -5

/-- The text of finite bits; none for infinities and what is not a number. -/
def Format.text (f : Format) (bits : Nat) : Option String :=
  match f.classify bits with
  | .finite negative mantissa _ =>
    let sign := if negative then "-" else ""
    if mantissa = 0 then some (sign ++ "0.0")
    else
      let d := (f.shortest (bits % f.sign)).normalize 20
      some (sign ++ layout f.narrowest f.widest d)
  | _ => none

end EventProbe.Ieee
