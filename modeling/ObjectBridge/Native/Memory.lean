import ObjectBridge.Value.Basic

/-!
# Native memory

Memory gives every address an octet.  Scalars lie in it at any address, lowest
octet first.
-/

namespace ObjectBridge

/-- The octets at all addresses. -/
abbrev Memory := UInt64 → UInt8

namespace Memory

/-- Memory that holds nothing but zeros. -/
def blank : Memory := fun _ => 0

/-- Consecutive octets from an address. -/
def read (memory : Memory) (address : Address) (count : Nat) : List UInt8 :=
  (List.range count).map fun offset => memory (address.raw + UInt64.ofNat offset)

/-- Where the block of an index lies.  Blocks are so far apart that none reaches
into the next. -/
def blockAddress (index : Nat) : Address :=
  ⟨UInt64.ofNat (index + 1) <<< 32⟩

/-- Memory with blocks of octets at their addresses. -/
def withBlocks (outside : Memory) (blocks : Array (List UInt8)) : Memory := fun place =>
  let number := (place >>> 32).toNat
  let offset := (place &&& 0xFFFFFFFF).toNat
  if number = 0 then outside place
  else
    match blocks[number - 1]? with
    | some block => block.getD offset (outside place)
    | none => outside place

end Memory

/-- The number that octets spell, lowest first. -/
def littleEndian : List UInt8 → Nat
  | [] => 0
  | octet :: rest => octet.toNat + 256 * littleEndian rest

/-- The lowest octets of a number, lowest first. -/
def toLittleEndian : Nat → Nat → List UInt8
  | 0, _ => []
  | count + 1, number => UInt8.ofNat number :: toLittleEndian count (number / 256)

namespace Value

/-- The value of a kind that the octets of its width spell. -/
def ofOctets (kind : Kind) (octets : List UInt8) : Value :=
  let number := littleEndian octets
  match kind with
  | .sbyte => .sbyte (UInt8.ofNat number).toInt8
  | .byte => .byte (UInt8.ofNat number)
  | .short => .short (UInt16.ofNat number).toInt16
  | .ushort => .ushort (UInt16.ofNat number)
  | .int => .int (UInt32.ofNat number).toInt32
  | .uint => .uint (UInt32.ofNat number)
  | .long => .long (UInt64.ofNat number).toInt64
  | .ulong => .ulong (UInt64.ofNat number)
  | .float => .float ⟨UInt32.ofNat number⟩
  | .double => .double ⟨UInt64.ofNat number⟩
  | .bool => .bool (number != 0)
  | .pointer => .pointer ⟨UInt64.ofNat number⟩

/-- The number whose lowest octets are the native representation of a value.  A
pointer has none. -/
def nativeNumber : Value → Nat
  | sbyte number => number.toUInt8.toNat
  | byte number => number.toNat
  | short number => number.toUInt16.toNat
  | ushort number => number.toNat
  | int number => number.toUInt32.toNat
  | uint number => number.toNat
  | long number => number.toUInt64.toNat
  | ulong number => number.toNat
  | float number => number.bits.toNat
  | double number => number.bits.toNat
  | bool truth => if truth then 1 else 0
  | pointer _ => 0

/-- The eight octets in which a value is passed. -/
def cell (value : Value) : List UInt8 := toLittleEndian 8 value.nativeNumber

end Value

end ObjectBridge
