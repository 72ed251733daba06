import ObjectBridge.Value.Scalar

/-!
# States of objects

Objects of different types live in one heap, so the heap stores their states in
one representation: the name of a state type and a list of scalar fields.  A
state type says how its members become fields and come back, and loses nothing
on the way.
-/

namespace ObjectBridge

/-- The state of an object, whatever its type. -/
structure ObjectState where
  stateType : String
  fields : List Value
deriving DecidableEq, Repr

/-- A type whose members are states of objects. -/
class StateType (σ : Type) where
  /-- The name by which a state is known to belong to the type. -/
  typeName : String
  /-- The scalars that make a member up. -/
  toFields : σ → List Value
  /-- The member that scalars make up. -/
  ofFields? : List Value → Option σ
  /-- A member comes back from its scalars. -/
  ofFields?_toFields : ∀ state : σ, ofFields? (toFields state) = some state

namespace ObjectState

variable {σ : Type} [StateType σ]

/-- The representation of a member of a state type. -/
def erase (state : σ) : ObjectState :=
  ⟨StateType.typeName σ, StateType.toFields state⟩

variable (σ) in
/-- The member of a state type that a representation stands for, if it stands for
one of that type. -/
def as? (state : ObjectState) : Option σ :=
  if state.stateType = StateType.typeName σ then StateType.ofFields? state.fields else none

@[simp]
theorem as?_erase (state : σ) : (erase state).as? σ = some state := by
  simp [as?, erase, StateType.ofFields?_toFields]

end ObjectState

/-- The states of a scalar type are the single values of its kind. -/
@[reducible]
def StateType.ofScalar (σ : Type) [Scalar σ] (typeName : String)
    (member? : Value → Option σ)
    (member?_wrap : ∀ state : σ, member? (Scalar.wrap state) = some state) : StateType σ where
  typeName := typeName
  toFields state := [Scalar.wrap state]
  ofFields?
    | [value] => member? value
    | _ => none
  ofFields?_toFields state := member?_wrap state

end ObjectBridge
