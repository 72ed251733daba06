import ObjectBridge.Value.Kind
import ObjectBridge.Value.Decimal

/-!
# Scalar values

A value is a scalar together with its kind.  `Value.coerce` passes a value for a
declared kind: the value itself where the kinds agree, the same number in the
declared kind where the kinds allow widening, and nothing otherwise.

Whole numbers reach single precision by way of double precision, so they are
rounded twice.
-/

namespace ObjectBridge

/-- A native address. -/
structure Address where
  raw : UInt64
deriving DecidableEq, Repr, Inhabited

namespace Address

/-- The address that points nowhere. -/
def null : Address := ⟨0⟩

/-- Whether an address points nowhere. -/
def isNull (address : Address) : Bool := address.raw == 0

end Address

/-- A natural number in lower-case hexadecimal digits after `0x`. -/
def hexText (number : Nat) : String :=
  "0x" ++ String.ofList (Nat.toDigits 16 number)

/-- A scalar of one of the twelve kinds. -/
inductive Value where
  | sbyte (number : Int8)
  | byte (number : UInt8)
  | short (number : Int16)
  | ushort (number : UInt16)
  | int (number : Int32)
  | uint (number : UInt32)
  | long (number : Int64)
  | ulong (number : UInt64)
  | float (number : Binary32)
  | double (number : Binary64)
  | bool (truth : Bool)
  | pointer (address : Address)
deriving DecidableEq, Repr, Inhabited

namespace Value

/-- The kind of a value. -/
def kind : Value → Kind
  | sbyte _ => .sbyte
  | byte _ => .byte
  | short _ => .short
  | ushort _ => .ushort
  | int _ => .int
  | uint _ => .uint
  | long _ => .long
  | ulong _ => .ulong
  | float _ => .float
  | double _ => .double
  | bool _ => .bool
  | pointer _ => .pointer

/-- The number that a value of an integer kind denotes. -/
def toInt? : Value → Option Int
  | sbyte number => some number.toInt
  | byte number => some number.toNat
  | short number => some number.toInt
  | ushort number => some number.toNat
  | int number => some number.toInt
  | uint number => some number.toNat
  | long number => some number.toInt
  | ulong number => some number.toNat
  | float _ | double _ | bool _ | pointer _ => none

/-- The value of an integer kind whose low bits are those of a number. -/
def ofInt? (number : Int) : Kind → Option Value
  | .sbyte => some (sbyte (Int8.ofInt number))
  | .byte => some (byte (UInt8.ofInt number))
  | .short => some (short (Int16.ofInt number))
  | .ushort => some (ushort (UInt16.ofInt number))
  | .int => some (int (Int32.ofInt number))
  | .uint => some (uint (UInt32.ofInt number))
  | .long => some (long (Int64.ofInt number))
  | .ulong => some (ulong (UInt64.ofInt number))
  | .float | .double | .bool | .pointer => none

/-- The number of a value of an integer kind as a signed word of 64 bits.  The widest
unsigned kind does not go through signed words. -/
def toInt64? : Value → Option Int64
  | sbyte number => some number.toInt64
  | byte number => some number.toUInt64.toInt64
  | short number => some number.toInt64
  | ushort number => some number.toUInt64.toInt64
  | int number => some number.toInt64
  | uint number => some number.toUInt64.toInt64
  | long number => some number
  | ulong _ | float _ | double _ | bool _ | pointer _ => none

/-- The number of a value of an unsigned kind as an unsigned word of 64 bits. -/
def toUInt64? : Value → Option UInt64
  | byte number => some number.toUInt64
  | ushort number => some number.toUInt64
  | uint number => some number.toUInt64
  | ulong number => some number
  | sbyte _ | short _ | int _ | long _ | float _ | double _ | bool _ | pointer _ => none

/-- A value of a numeric kind in double precision. -/
def toDouble? : Value → Option Binary64
  | float number => some (.ofBinary32 number)
  | double number => some number
  | ulong number => some (.ofInt number.toNat)
  | value => value.toInt64?.map fun word => .ofInt word.toInt

/-- A number brought to another kind through a word or through double precision,
whether or not the kinds allow it.  Narrow kinds take the low bits of the word. -/
def convert? (value : Value) : Kind → Option Value
  | .short => value.toInt64?.map fun word => short word.toInt16
  | .ushort => value.toUInt64?.map fun word => ushort word.toUInt16
  | .int => value.toInt64?.map fun word => int word.toInt32
  | .uint => value.toUInt64?.map fun word => uint word.toUInt32
  | .long => value.toInt64?.map long
  | .ulong => value.toUInt64?.map ulong
  | .float => value.toDouble?.map fun number => float (.ofBinary64 number)
  | .double => value.toDouble?.map double
  | .sbyte | .byte | .bool | .pointer => none

/-- The value as a parameter of kind `target` receives it, if the kind of the
value may be passed there. -/
def coerce (value : Value) (target : Kind) : Option Value :=
  if value.kind.widensTo target then
    if value.kind = target then some value else value.convert? target
  else
    none

/-- The text of a value in reports. -/
def text : Value → String
  | float number => number.text
  | double number => number.text
  | bool truth => if truth then "true" else "false"
  | pointer address => hexText address.raw.toNat
  | value => match value.toInt? with
      | some (.ofNat number) => String.ofList (Nat.toDigits 10 number)
      | some (.negSucc number) => String.ofList ('-' :: Nat.toDigits 10 (number + 1))
      | none => ""

end Value

end ObjectBridge
