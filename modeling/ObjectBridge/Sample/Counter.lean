import ObjectBridge.Reflect.Descriptor

/-!
# Sample type: a counter

Counts up and down in 64 bits, wrapping around at the ends except where it
checks.
-/

namespace ObjectBridge.Sample

/-- The argument at a position as a member of a scalar type. -/
def argument {σ α τ : Type} [Scalar τ] (arguments : List Value) (index : Nat)
    (next : τ → Program σ α) : Program σ α :=
  .withArgument arguments index fun value => .ofChecked (Scalar.extract value) next

/-- The end of a body that returns a scalar. -/
def returns {σ τ : Type} [Scalar τ] (member : τ) : Program σ (Option Value) :=
  .done (some (Scalar.wrap member))

/-- A number that counts. -/
structure Counter where
  count : Int64
deriving DecidableEq, Repr

namespace Counter

instance : StateType Counter where
  typeName := "Counter"
  toFields counter := [.long counter.count]
  ofFields?
    | [.long count] => some ⟨count⟩
    | _ => none
  ofFields?_toFields _ := rfl

/-- Set the count and return nothing. -/
def become (count : Int64) : Program Counter (Option Value) :=
  .write ⟨count⟩ (.done none)

/-- The sum of two counts, if it needs no wrapping. -/
def checkedSum? (first second : Int64) : Option Int64 :=
  let sum := first.toInt + second.toInt
  if Int64.minValue.toInt ≤ sum && sum ≤ Int64.maxValue.toInt then some (Int64.ofInt sum)
  else none

/-- The constructors: from zero, and from a start. -/
def constructors : List (TypedConstructor Counter) :=
  [ ⟨[], fun _ => .done ⟨0⟩⟩,
    ⟨[.long], fun arguments => argument arguments 0 fun start => .done ⟨start⟩⟩ ]

/-- The methods. -/
def methods : List (TypedMethod Counter) :=
  [ ⟨"Increment", [], fun counter _ => become (counter.count + 1)⟩,
    ⟨"IncrementBy", [.int], fun counter arguments =>
      argument arguments 0 fun amount : Int32 => become (counter.count + amount.toInt64)⟩,
    ⟨"Get", [], fun counter _ => returns counter.count⟩,
    ⟨"CheckedAdd", [.long], fun counter arguments =>
      argument arguments 0 fun amount : Int64 =>
        match checkedSum? counter.count amount with
        | some sum => .write ⟨sum⟩ (returns sum)
        | none => .fault (.plain "counter overflow")⟩,
    ⟨"Add", [.short, .bool], fun counter arguments =>
      argument arguments 0 fun amount : Int16 =>
        argument arguments 1 fun twice : Bool =>
          let step := amount.toInt64
          become (counter.count + if twice then 2 * step else step)⟩,
    ⟨"Add", [], fun counter _ => become (counter.count + 1)⟩,
    ⟨"Explode", [], fun _ _ => .panic (.text "counter exploded")⟩,
    ⟨"Clear", [], fun _ _ => become 0⟩ ]

/-- The descriptor. -/
def type : TypeDescriptor := .build "Demo.Counter" constructors methods

end Counter

end ObjectBridge.Sample
