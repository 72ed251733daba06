import ObjectBridge.Sample.Counter

/-!
# Sample type: two methods of one name

Both methods have one parameter, so the first one declared answers every call.
-/

namespace ObjectBridge.Sample

/-- A state without content. -/
structure Conflicted where
deriving DecidableEq, Repr

namespace Conflicted

instance : StateType Conflicted where
  typeName := "Conflicted"
  toFields _ := []
  ofFields?
    | [] => some {}
    | _ => none
  ofFields?_toFields _ := rfl

/-- The methods. -/
def methods : List (TypedMethod Conflicted) :=
  [ ⟨"Pick", [.int], fun _ arguments =>
      argument arguments 0 fun _ : Int32 => returns (1 : Int32)⟩,
    ⟨"Pick", [.double], fun _ arguments =>
      argument arguments 0 fun _ : Binary64 => returns (2 : Int32)⟩ ]

/-- The descriptor. -/
def type : TypeDescriptor := .build "Conflicted" [⟨[], fun _ => .done {}⟩] methods

end Conflicted

end ObjectBridge.Sample
