import ObjectBridge.Sample.Counter

/-!
# Sample type: a buffer

Native memory by its address and length.
-/

namespace ObjectBridge.Sample

/-- Where a buffer lies and how long it is. -/
structure Buffer where
  base : Address
  size : UInt32
deriving DecidableEq, Repr

namespace Buffer

instance : StateType Buffer where
  typeName := "Buffer"
  toFields buffer := [.pointer buffer.base, .uint buffer.size]
  ofFields?
    | [.pointer base, .uint size] => some ⟨base, size⟩
    | _ => none
  ofFields?_toFields _ := rfl

/-- The constructors: from an address that points somewhere and a length. -/
def constructors : List (TypedConstructor Buffer) :=
  [ ⟨[.pointer, .uint], fun arguments =>
      argument arguments 0 fun base : Address =>
        argument arguments 1 fun size =>
          if base.isNull then .fault (.plain "buffer base is null")
          else .done ⟨base, size⟩⟩ ]

/-- The methods. -/
def methods : List (TypedMethod Buffer) :=
  [ ⟨"Address", [], fun buffer _ => returns buffer.base⟩,
    ⟨"Len", [], fun buffer _ => returns buffer.size⟩ ]

/-- The descriptor. -/
def type : TypeDescriptor := .build "Demo.Buffer" constructors methods

end Buffer

end ObjectBridge.Sample
