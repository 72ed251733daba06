import ObjectBridge.Sample.Counter

/-!
# Sample type: every kind

One constructor and one method for every kind, and a record of which constructor
made the object.
-/

namespace ObjectBridge.Sample

/-- The wire code of the kind that an object was made from. -/
structure Kinds where
  code : Int32
deriving DecidableEq, Repr

namespace Kinds

instance : StateType Kinds where
  typeName := "Kinds"
  toFields kinds := [.int kinds.code]
  ofFields?
    | [.int code] => some ⟨code⟩
    | _ => none
  ofFields?_toFields _ := rfl

/-- The constructor from a kind. -/
def constructor (kind : Kind) : TypedConstructor Kinds where
  parameters := [kind]
  body arguments :=
    .withArgument arguments 0 fun value =>
      .ofChecked (value.extractAs kind) fun _ => .done ⟨Int32.ofNat kind.code⟩

/-- The method that returns its argument of a kind. -/
def echo (kind : Kind) : TypedMethod Kinds where
  name := "Echo" ++ kind.label
  parameters := [kind]
  body _ arguments :=
    .withArgument arguments 0 fun value =>
      .ofChecked (value.extractAs kind) fun member => .done (some member)

/-- The method that returns the record. -/
def record : TypedMethod Kinds where
  name := "Kind"
  parameters := []
  body kinds _ := returns kinds.code

/-- The descriptor. -/
def type : TypeDescriptor :=
  .build "Demo.Kinds" (Kind.all.map constructor) (Kind.all.map echo ++ [record])

end Kinds

end ObjectBridge.Sample
