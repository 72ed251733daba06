import ObjectBridge.Value.Binary

/-!
# Shortest decimal text of binary numbers

The text of a finite binary number has the fewest significant digits that read
back as the same number, and of those the nearest to it, an exact tie going up.
It is always positional: no exponent is written however large or small the
number is, and a whole number has no decimal point.

`shortestDigits` finds the digits.  A real number reads back as
`significand * 2 ^ exponent` if it lies between the midpoints to the two
neighbours, the midpoints themselves included when the significand is even.  On
the grid of multiples of `10 ^ k` only the two grid points next to the number
can be nearest, so the coarsest grid with one of them in that interval decides.
-/

namespace ObjectBridge

/-- A decimal number `digits * 10 ^ exponent`. -/
structure Decimal where
  digits : Nat
  exponent : Int
deriving DecidableEq, Repr

namespace Decimal

/-- `count` zeros. -/
def zeros (count : Nat) : List Char := List.replicate count '0'

/-- Positional text: zeros fill up to the decimal point on either side. -/
def text (number : Decimal) : String :=
  let written := Nat.toDigits 10 number.digits
  if 0 ≤ number.exponent then
    String.ofList (written ++ zeros number.exponent.toNat)
  else
    let places := number.exponent.natAbs
    if places < written.length then
      let whole := written.length - places
      String.ofList (written.take whole ++ '.' :: written.drop whole)
    else
      String.ofList ('0' :: '.' :: (zeros (places - written.length) ++ written))

end Decimal

/-- The reals that read back as one number, scaled to whole multiples of
`1 / scale`: those strictly between `lower` and `upper`, and these two as well
if `closed`. -/
structure RoundingInterval where
  lower : Nat
  value : Nat
  upper : Nat
  scale : Nat
  closed : Bool

namespace RoundingInterval

/-- Whether `multiple * 10 ^ exponent` lies in the interval. -/
def contains (interval : RoundingInterval) (multiple : Nat) (exponent : Int) : Bool :=
  let point := multiple * Nat.pow 10 exponent.toNat * interval.scale
  let unit := Nat.pow 10 (-exponent).toNat
  if interval.closed then
    interval.lower * unit ≤ point && point ≤ interval.upper * unit
  else
    interval.lower * unit < point && point < interval.upper * unit

/-- The nearest point of the grid `10 ^ exponent` that lies in the interval. -/
def nearest? (interval : RoundingInterval) (exponent : Int) : Option Decimal :=
  let numerator := interval.value * Nat.pow 10 (-exponent).toNat
  let denominator := interval.scale * Nat.pow 10 exponent.toNat
  let below := numerator / denominator
  let remainder := numerator % denominator
  let lowFits := interval.contains below exponent
  let highFits := interval.contains (below + 1) exponent
  if highFits && (!lowFits || denominator ≤ 2 * remainder) then some ⟨below + 1, exponent⟩
  else if lowFits then some ⟨below, exponent⟩
  else none

/-- The coarsest of `count` successively finer grids that has a point in the
interval. -/
def coarsest? (interval : RoundingInterval) : Nat → Int → Option Decimal
  | 0, _ => none
  | count + 1, exponent =>
      (interval.nearest? exponent).orElse fun _ => coarsest? interval count (exponent - 1)

end RoundingInterval

namespace BinaryFormat

/-- The reals that read back as `significand * 2 ^ exponent`.  Below a power of
two the next number is only half as far away as above it. -/
def roundingInterval (format : BinaryFormat) (significand : Nat) (exponent : Int) :
    RoundingInterval :=
  let gapBelow := if significand = Nat.pow 2 format.fractionBits then 1 else 2
  let factor := Nat.pow 2 (exponent - 2).toNat
  { lower := (4 * significand - gapBelow) * factor
    value := 4 * significand * factor
    upper := (4 * significand + 2) * factor
    scale := Nat.pow 2 (2 - exponent).toNat
    closed := significand % 2 == 0 }

/-- The fewest digits that read back as `significand * 2 ^ exponent`.  The first
grid tried is coarser than the number itself, and seventeen digits are enough
for double precision, so twenty-one grids reach a hit. -/
def shortestDigits (format : BinaryFormat) (significand : Nat) (exponent : Int) : Decimal :=
  let start := (significand.log2 + exponent) * 30103 / 100000 + 2
  ((format.roundingInterval significand exponent).coarsest? 21 start).getD ⟨0, 0⟩

/-- The text of the number that a bit pattern denotes. -/
def text (format : BinaryFormat) (pattern : Nat) : String :=
  match format.decode pattern with
  | .nan => "NaN"
  | .infinite negative => if negative then "-inf" else "inf"
  | .finite negative significand exponent =>
      let magnitude :=
        if significand = 0 then "0" else (format.shortestDigits significand exponent).text
      if negative then "-" ++ magnitude else magnitude

end BinaryFormat

/-- The shortest text that reads back as this single. -/
def Binary32.text (value : Binary32) : String :=
  BinaryFormat.single.text value.bits.toNat

/-- The shortest text that reads back as this double. -/
def Binary64.text (value : Binary64) : String :=
  BinaryFormat.double.text value.bits.toNat

end ObjectBridge
