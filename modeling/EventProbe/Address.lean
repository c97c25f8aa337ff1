import EventProbe.Text.Numeral

/-!
# Internet addresses

Addresses of both versions and their canonical texts.
-/

namespace EventProbe

inductive Address where
  | v4 (octets : Vector UInt8 4)
  | v6 (groups : Vector UInt16 8)
  deriving DecidableEq, Repr

namespace Address

def dotted (octets : List Nat) : String :=
  ".".intercalate (octets.map toString)

def colons (groups : List Nat) : String :=
  ":".intercalate (groups.map hexDigits)

/-- Start and length of the first longest run of zeros among the remaining groups, given their
position, the run that ends before them and the longest run so far. -/
def zeroRun : List Nat → Nat → Nat → Nat × Nat → Nat × Nat
  | [], _, _, best => best
  | g :: rest, position, run, best =>
    if g = 0 then
      let run := run + 1
      zeroRun rest (position + 1) run
        (if best.2 < run then (position + 1 - run, run) else best)
    else zeroRun rest (position + 1) 0 best

/-- The text of the groups of a version 6 address. The first longest run of at least two zeros is
left out; an address that stands for one of version 4 ends with its octets. -/
def groupsText (groups : List Nat) : String :=
  match groups with
  | [0, 0, 0, 0, 0, 0xFFFF, a, b] =>
    "::ffff:" ++ dotted [a / 256, a % 256, b / 256, b % 256]
  | groups =>
    let (start, length) := zeroRun groups 0 0 (0, 0)
    if 1 < length then colons (groups.take start) ++ "::" ++ colons (groups.drop (start + length))
    else colons groups

def text : Address → String
  | .v4 octets => dotted (octets.toList.map UInt8.toNat)
  | .v6 groups => groupsText (groups.toList.map UInt16.toNat)

end Address

end EventProbe
