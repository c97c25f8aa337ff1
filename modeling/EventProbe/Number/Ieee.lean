/-!
# Binary floating point

Floating-point numbers are kept as the bits of their interchange format, and every operation on
them is exact integer arithmetic followed by one rounding to nearest, ties to even. Nothing here
depends on the machine's own floating point.
-/

namespace EventProbe.Ieee

/-- A binary interchange format. -/
structure Format where
  fraction : Nat
  exponent : Nat
  deriving DecidableEq, Repr

def double : Format := ⟨52, 11⟩

def single : Format := ⟨23, 8⟩

namespace Format

/-- The largest exponent field, that of infinities and of what is not a number. -/
def top (f : Format) : Nat := Nat.pow 2 f.exponent - 1

/-- The bits of positive infinity; those of every finite magnitude are smaller. -/
def infinity (f : Format) : Nat := f.top * Nat.pow 2 f.fraction

def sign (f : Format) : Nat := Nat.pow 2 (f.fraction + f.exponent)

/-- Weight of the last fraction bit of the least magnitudes, as a power of two: minus this. -/
def depth (f : Format) : Nat := Nat.pow 2 (f.exponent - 1) - 2 + f.fraction

end Format

/-- What the bits of a format stand for. A finite magnitude is `mantissa * 2 ^ scale / 2 ^ depth`
of its format. -/
inductive Reading where
  | finite (negative : Bool) (mantissa scale : Nat)
  | infinite (negative : Bool)
  | nan
  deriving DecidableEq, Repr

def Format.classify (f : Format) (bits : Nat) : Reading :=
  let negative := decide (f.sign ≤ bits)
  let magnitude := bits % f.sign
  let field := magnitude / Nat.pow 2 f.fraction
  let stored := magnitude % Nat.pow 2 f.fraction
  if field = 0 then .finite negative stored 0
  else if field < f.top then .finite negative (Nat.pow 2 f.fraction + stored) (field - 1)
  else if stored = 0 then .infinite negative
  else .nan

/-- The quotient of two numbers, rounded to nearest and to even when halfway. -/
def roundedQuotient (num den : Nat) : Nat :=
  let q := num / den
  let r := num % den
  if 2 * r < den then q
  else if den < 2 * r then q + 1
  else if q % 2 = 0 then q else q + 1

/-- The bits of the magnitude nearest to `num / den`; infinity when it is too large. -/
def Format.nearest (f : Format) (num den : Nat) : Nat :=
  -- The magnitude in units of the least weight.
  let units := num * Nat.pow 2 f.depth
  let wide := (units / den).log2
  let scale := wide - f.fraction
  let bits := scale * Nat.pow 2 f.fraction + roundedQuotient units (den * Nat.pow 2 scale)
  if bits < f.infinity then bits else f.infinity

def Format.signed (f : Format) (negative : Bool) (magnitude : Nat) : Nat :=
  if negative then f.sign + magnitude else magnitude

/-- The magnitude of finite bits as a fraction; zero for other bits. -/
def Format.ratio (f : Format) (bits : Nat) : Nat × Nat :=
  match f.classify bits with
  | .finite _ mantissa scale => (mantissa * Nat.pow 2 scale, Nat.pow 2 f.depth)
  | _ => (0, 1)

def Format.convert (f g : Format) (bits : Nat) : Nat :=
  match f.classify bits with
  | .finite negative mantissa scale =>
    g.signed negative (g.nearest (mantissa * Nat.pow 2 scale) (Nat.pow 2 f.depth))
  | .infinite negative => g.signed negative g.infinity
  | .nan => g.infinity + 1

/-- The whole part of a number as an unsigned number below `limit`: zero for what is negative or not
a number, the largest one for what is too large. -/
def Format.truncate (f : Format) (limit : Nat) (bits : Nat) : Nat :=
  match f.classify bits with
  | .finite false mantissa scale => min (mantissa * Nat.pow 2 scale / Nat.pow 2 f.depth) (limit - 1)
  | .infinite false => limit - 1
  | _ => 0

end EventProbe.Ieee
