import ObjectBridge.Sample.Account
import ObjectBridge.Sample.Buffer
import ObjectBridge.Sample.Conflicted
import ObjectBridge.Sample.Kinds
import ObjectBridge.Script

/-!
# Sample states

Scalars as states of objects, a type with one method over any of them, and what
is recorded when the object of a sample state is reclaimed.
-/

namespace ObjectBridge.Sample

/-- The member that a value is exactly. -/
def exactly? {α : Type} [Scalar α] (value : Value) : Option α :=
  if value.kind = Scalar.kind α then (Scalar.extract value).toOption else none

instance : StateType Int32 := .ofScalar Int32 "i32" exactly? fun _ => rfl

instance : StateType UInt64 := .ofScalar UInt64 "u64" exactly? fun _ => rfl

instance : StateType Bool := .ofScalar Bool "bool" exactly? fun _ => rfl

instance : StateType Binary64 := .ofScalar Binary64 "f64" exactly? fun _ => rfl

/-- The method that returns the length of the text of a scalar state. -/
def lengthOf (σ : Type) [Scalar σ] : TypedMethod σ where
  name := "Length"
  parameters := []
  body state _ := returns (Int32.ofNat (Scalar.wrap state).text.length)

/-- The scalar types that are states. -/
inductive ScalarState where
  | int | ulong | bool | double
deriving DecidableEq, Repr

namespace ScalarState

/-- The scalar type of a name. -/
def ofName? : String → Option ScalarState
  | "i32" => some int
  | "u64" => some ulong
  | "bool" => some bool
  | "f64" => some double
  | _ => none

/-- The state that an object of the type starts with. -/
def initial : ScalarState → ObjectState
  | int => .erase (0 : Int32)
  | ulong => .erase (0 : UInt64)
  | bool => .erase false
  | double => .erase (⟨0⟩ : Binary64)

/-- The method over states of the type. -/
def method : ScalarState → MethodInfo
  | int => (lengthOf Int32).erase
  | ulong => (lengthOf UInt64).erase
  | bool => (lengthOf Bool).erase
  | double => (lengthOf Binary64).erase

/-- Call the method of a type on the first state of another. -/
def probe (type receiver : ScalarState) : Except Fault (Option Value) :=
  ((type.method.body receiver.initial []).immediate?).getD (.ok none)

end ScalarState

/-- The type of objects that hold one word. -/
def cellType : TypeDescriptor := .build "Test.Cell" ([] : List (TypedConstructor UInt64)) []

/-- What is recorded when an object with a state is reclaimed. -/
def finalRecord? (state : ObjectState) : Option String :=
  match state.as? Buffer with
  | some buffer => some ("buffer:" ++ toString buffer.size.toNat)
  | none => (state.as? ScriptState).map fun scripted => "s" ++ toString scripted.serial.toNat

/-- A sample type by its short name. -/
def type? : String → Option TypeDescriptor
  | "Counter" => some Counter.type
  | "Buffer" => some Buffer.type
  | "Conflicted" => some Conflicted.type
  | "Account" => some Account.type
  | "Kinds" => some Kinds.type
  | _ => none

end ObjectBridge.Sample
