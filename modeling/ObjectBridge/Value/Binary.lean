/-!
# Binary floating-point formats

A format is given by the number of bits of its significand and of its exponent
field; single and double precision are two values of one type.  The functions
here go between bit patterns and the numbers they denote, in exact natural
arithmetic: `decode` reads a pattern, `encode` rounds `significand * 2 ^ exponent`
to the nearest pattern, a tie going to the even one.
-/

namespace ObjectBridge

/-- The quotient of two natural numbers rounded to the nearest natural number,
a tie going to the even neighbour. -/
def roundQuotient (numerator denominator : Nat) : Nat :=
  let quotient := numerator / denominator
  let remainder := numerator % denominator
  if 2 * remainder < denominator then quotient
  else if denominator < 2 * remainder then quotient + 1
  else if quotient % 2 = 0 then quotient
  else quotient + 1

/-- A binary interchange format. -/
structure BinaryFormat where
  /-- Bits of the significand, the leading one included. -/
  precision : Nat
  /-- Bits of the exponent field. -/
  exponentWidth : Nat
deriving DecidableEq, Repr

/-- What a bit pattern denotes. -/
inductive BinaryNumber where
  | nan
  | infinite (negative : Bool)
  /-- The number `significand * 2 ^ exponent`, negated if `negative`. -/
  | finite (negative : Bool) (significand : Nat) (exponent : Int)
deriving DecidableEq, Repr

namespace BinaryFormat

/-- The 32-bit format. -/
def single : BinaryFormat := ⟨24, 8⟩

/-- The 64-bit format. -/
def double : BinaryFormat := ⟨53, 11⟩

variable (format : BinaryFormat)

/-- Bits of the stored fraction. -/
def fractionBits : Nat := format.precision - 1

/-- The weight of the last bit of the smallest numbers, as a power of two. -/
def minExponent : Int :=
  3 - Int.pow 2 (format.exponentWidth - 1) - format.precision

/-- The pattern of positive infinity; every larger pattern without a sign is no
number. -/
def infinityPattern : Nat :=
  (Nat.pow 2 format.exponentWidth - 1) * Nat.pow 2 format.fractionBits

/-- The sign bit alone. -/
def signPattern (negative : Bool) : Nat :=
  if negative then Nat.pow 2 (format.fractionBits + format.exponentWidth) else 0

/-- The number that a pattern denotes. -/
def decode (pattern : Nat) : BinaryNumber :=
  let fraction := pattern % Nat.pow 2 format.fractionBits
  let field := pattern / Nat.pow 2 format.fractionBits % Nat.pow 2 format.exponentWidth
  let negative := pattern / Nat.pow 2 (format.fractionBits + format.exponentWidth) % 2 == 1
  if field = Nat.pow 2 format.exponentWidth - 1 then
    if fraction = 0 then .infinite negative else .nan
  else if field = 0 then
    .finite negative fraction format.minExponent
  else
    .finite negative (fraction + Nat.pow 2 format.fractionBits)
      (format.minExponent + (field - 1 : Nat))

/-- The weight of the last bit that the format keeps of a number with this
significand and exponent, as a power of two. -/
def lastExponent (significand : Nat) (exponent : Int) : Int :=
  max (exponent + significand.log2 + 1 - format.precision) format.minExponent

/-- The pattern, its sign apart, of the number nearest to
`significand * 2 ^ exponent`.  Exponent field and fraction are consecutive
digits of one count, so a significand that rounds up to the next power of two
carries into the exponent by itself. -/
def magnitude (significand : Nat) (exponent : Int) : Nat :=
  let last := format.lastExponent significand exponent
  let kept :=
    if last ≤ exponent then significand * Nat.pow 2 (exponent - last).toNat
    else roundQuotient significand (Nat.pow 2 (last - exponent).toNat)
  min ((last - format.minExponent).toNat * Nat.pow 2 format.fractionBits + kept)
    format.infinityPattern

/-- The pattern of the number nearest to `significand * 2 ^ exponent`, negated if
`negative`. -/
def encode (negative : Bool) (significand : Nat) (exponent : Int) : Nat :=
  format.signPattern negative +
    if significand = 0 then 0 else format.magnitude significand exponent

/-- The pattern of the number nearest to an integer. -/
def ofInt (value : Int) : Nat :=
  format.encode (decide (value < 0)) value.natAbs 0

/-- The pattern in `target` of the number nearest to the one that `pattern`
denotes.  A pattern that is no number keeps its sign and the leading bits of its
fraction, with the first of them set. -/
def convert (target : BinaryFormat) (pattern : Nat) : Nat :=
  match format.decode pattern with
  | .infinite negative => target.signPattern negative + target.infinityPattern
  | .finite negative significand exponent => target.encode negative significand exponent
  | .nan =>
      let negative := pattern / Nat.pow 2 (format.fractionBits + format.exponentWidth) % 2 == 1
      let fraction := pattern % Nat.pow 2 format.fractionBits
      let leading := fraction * Nat.pow 2 target.fractionBits / Nat.pow 2 format.fractionBits
      let kept := leading ||| Nat.pow 2 (target.fractionBits - 1)
      target.signPattern negative + (target.infinityPattern + kept)

end BinaryFormat

/-- A single-precision number, given by its bits. -/
structure Binary32 where
  bits : UInt32
deriving DecidableEq, Repr, Inhabited

/-- A double-precision number, given by its bits. -/
structure Binary64 where
  bits : UInt64
deriving DecidableEq, Repr, Inhabited

/-- The double nearest to an integer. -/
def Binary64.ofInt (value : Int) : Binary64 :=
  ⟨UInt64.ofNat (BinaryFormat.double.ofInt value)⟩

/-- The double equal to a single. -/
def Binary64.ofBinary32 (value : Binary32) : Binary64 :=
  ⟨UInt64.ofNat (BinaryFormat.single.convert BinaryFormat.double value.bits.toNat)⟩

/-- The single nearest to a double. -/
def Binary32.ofBinary64 (value : Binary64) : Binary32 :=
  ⟨UInt32.ofNat (BinaryFormat.double.convert BinaryFormat.single value.bits.toNat)⟩

/-- Whether the bits denote no number. -/
def Binary32.isNaN (value : Binary32) : Bool :=
  BinaryFormat.single.decode value.bits.toNat == .nan

/-- Whether the bits denote no number. -/
def Binary64.isNaN (value : Binary64) : Bool :=
  BinaryFormat.double.decode value.bits.toNat == .nan

end ObjectBridge
