/-!
# Kinds of scalar values

Every value that crosses the bridge has one of twelve kinds.  A kind fixes the
code that stands for it on the wire, the number of bytes its native
representation takes, and the kinds it may be widened to.

Widening never loses the sign or the magnitude of an integer; integers may also
widen to floating kinds, where the nearest representable number stands in.
-/

namespace ObjectBridge

/-- The kinds of values that cross the bridge, in wire order. -/
inductive Kind where
  | sbyte | byte | short | ushort | int | uint | long | ulong
  | float | double | bool | pointer
deriving DecidableEq, Repr, Inhabited

namespace Kind

/-- All kinds; the position of a kind in this list is its wire code. -/
def all : List Kind :=
  [sbyte, byte, short, ushort, int, uint, long, ulong, float, double, bool, pointer]

/-- The number that stands for a kind on the wire. -/
def code : Kind → Nat
  | sbyte => 0
  | byte => 1
  | short => 2
  | ushort => 3
  | int => 4
  | uint => 5
  | long => 6
  | ulong => 7
  | float => 8
  | double => 9
  | bool => 10
  | pointer => 11

/-- The kind that a raw wire code stands for, if it stands for one. -/
def ofCode? (raw : Int32) : Option Kind :=
  if raw < 0 then none else all[raw.toInt.toNat]?

/-- Bytes of the native representation.  A pointer has none of its own: the
address itself is the value. -/
def width : Kind → Nat
  | sbyte | byte | bool => 1
  | short | ushort => 2
  | int | uint | float => 4
  | long | ulong | double => 8
  | pointer => 0

/-- The name of a kind in signatures and messages. -/
def name : Kind → String
  | sbyte => "sbyte"
  | byte => "byte"
  | short => "short"
  | ushort => "ushort"
  | int => "int"
  | uint => "uint"
  | long => "long"
  | ulong => "ulong"
  | float => "float"
  | double => "double"
  | bool => "bool"
  | pointer => "pointer"

/-- The kind of a name, if it is the name of one. -/
def ofName? (text : String) : Option Kind :=
  all.find? fun kind => kind.name == text

/-- The name of a kind in diagnostic dumps and in the names of methods that are
made one per kind. -/
def label : Kind → String
  | sbyte => "SByte"
  | byte => "Byte"
  | short => "Short"
  | ushort => "UShort"
  | int => "Int"
  | uint => "UInt"
  | long => "Long"
  | ulong => "ULong"
  | float => "Float"
  | double => "Double"
  | bool => "Bool"
  | pointer => "Pointer"

/-- The kinds, other than its own, that a value of a kind may be passed for. -/
def wider : Kind → List Kind
  | sbyte => [short, int, long, float, double]
  | byte => [short, ushort, int, uint, long, ulong, float, double]
  | short => [int, long, float, double]
  | ushort => [int, uint, long, ulong, float, double]
  | int => [long, float, double]
  | uint => [long, ulong, float, double]
  | long | ulong => [float, double]
  | float => [double]
  | double | bool | pointer => []

/-- Whether a value of kind `source` may be passed where `target` is declared. -/
def widensTo (source target : Kind) : Bool :=
  source == target || (wider source).contains target

/-- Signed and unsigned whole numbers, as opposed to floating numbers, truth
values and addresses. -/
def isInteger : Kind → Bool
  | sbyte | byte | short | ushort | int | uint | long | ulong => true
  | float | double | bool | pointer => false

@[simp]
theorem widensTo_self (kind : Kind) : kind.widensTo kind = true := by
  simp [widensTo]

@[simp]
theorem ofCode?_code (kind : Kind) : ofCode? (Int32.ofNat kind.code) = some kind := by
  cases kind <;> rfl

end Kind

end ObjectBridge
