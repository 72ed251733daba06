import ObjectBridge.Error.Fault

/-!
# Scalar types

A type of the host language that has a kind of its own: its members are the
payloads of the values of that kind.  `Scalar.extract` reads a member back from
any value that may be passed for the kind.
-/

namespace ObjectBridge

/-- The fault of reading a value as a kind that it may not be passed for. -/
def Fault.typeMismatch (expected got : Kind) : Fault :=
  .plain s!"Type mismatch: expected {expected.name}, got {got.name}"

/-- A type whose members are the payloads of one kind of values. -/
class Scalar (α : Type) where
  /-- The kind declared for parameters of the type. -/
  kind : Kind
  /-- The value of a member. -/
  wrap : α → Value
  /-- The member that a value stands for where the type is declared. -/
  extract : Value → Except Fault α

/-- Coerce a value to a kind and take the payload out. -/
def extractCoerced {α : Type} (kind : Kind) (payload? : Value → Option α) (value : Value) :
    Except Fault α :=
  match (value.coerce kind).bind payload? with
  | some member => .ok member
  | none => .error (.typeMismatch kind value.kind)

instance : Scalar Int8 where
  kind := .sbyte
  wrap := .sbyte
  extract := extractCoerced .sbyte fun | .sbyte number => some number | _ => none

instance : Scalar UInt8 where
  kind := .byte
  wrap := .byte
  extract := extractCoerced .byte fun | .byte number => some number | _ => none

instance : Scalar Int16 where
  kind := .short
  wrap := .short
  extract := extractCoerced .short fun | .short number => some number | _ => none

instance : Scalar UInt16 where
  kind := .ushort
  wrap := .ushort
  extract := extractCoerced .ushort fun | .ushort number => some number | _ => none

instance : Scalar Int32 where
  kind := .int
  wrap := .int
  extract := extractCoerced .int fun | .int number => some number | _ => none

instance : Scalar UInt32 where
  kind := .uint
  wrap := .uint
  extract := extractCoerced .uint fun | .uint number => some number | _ => none

instance : Scalar Int64 where
  kind := .long
  wrap := .long
  extract := extractCoerced .long fun | .long number => some number | _ => none

instance : Scalar UInt64 where
  kind := .ulong
  wrap := .ulong
  extract := extractCoerced .ulong fun | .ulong number => some number | _ => none

instance : Scalar Binary32 where
  kind := .float
  wrap := .float
  extract := extractCoerced .float fun | .float number => some number | _ => none

instance : Scalar Binary64 where
  kind := .double
  wrap := .double
  extract := extractCoerced .double fun | .double number => some number | _ => none

instance : Scalar Bool where
  kind := .bool
  wrap := .bool
  extract := extractCoerced .bool fun | .bool truth => some truth | _ => none

/-- An address is read from pointers alone, without any coercion. -/
instance : Scalar Address where
  kind := .pointer
  wrap := .pointer
  extract
    | .pointer address => .ok address
    | value => .error (.typeMismatch .pointer value.kind)

/-- Read a value as a kind, by the scalar type of that kind. -/
def Value.extractAs (value : Value) : Kind → Except Fault Value
  | .sbyte => (Scalar.extract value : Except Fault Int8).map Scalar.wrap
  | .byte => (Scalar.extract value : Except Fault UInt8).map Scalar.wrap
  | .short => (Scalar.extract value : Except Fault Int16).map Scalar.wrap
  | .ushort => (Scalar.extract value : Except Fault UInt16).map Scalar.wrap
  | .int => (Scalar.extract value : Except Fault Int32).map Scalar.wrap
  | .uint => (Scalar.extract value : Except Fault UInt32).map Scalar.wrap
  | .long => (Scalar.extract value : Except Fault Int64).map Scalar.wrap
  | .ulong => (Scalar.extract value : Except Fault UInt64).map Scalar.wrap
  | .float => (Scalar.extract value : Except Fault Binary32).map Scalar.wrap
  | .double => (Scalar.extract value : Except Fault Binary64).map Scalar.wrap
  | .bool => (Scalar.extract value : Except Fault Bool).map Scalar.wrap
  | .pointer => (Scalar.extract value : Except Fault Address).map Scalar.wrap

end ObjectBridge
