import ObjectBridge.Sample.Counter

/-!
# Sample type: an account

A balance in double precision that can be drawn on but not overdrawn.
-/

namespace ObjectBridge.Sample

/-- Whether the first number is greater than the second. -/
def exceeds (first second : Binary64) : Bool :=
  decide (Float.ofBits second.bits < Float.ofBits first.bits)

/-- The difference of two numbers, rounded to the nearest. -/
def difference (first second : Binary64) : Binary64 :=
  ⟨(Float.ofBits first.bits - Float.ofBits second.bits).toBits⟩

/-- Money that is left. -/
structure Account where
  balance : Binary64
deriving DecidableEq, Repr

namespace Account

instance : StateType Account where
  typeName := "Account"
  toFields account := [.double account.balance]
  ofFields?
    | [.double balance] => some ⟨balance⟩
    | _ => none
  ofFields?_toFields _ := rfl

/-- The constructors: from a balance. -/
def constructors : List (TypedConstructor Account) :=
  [ ⟨[.double], fun arguments => argument arguments 0 fun balance => .done ⟨balance⟩⟩ ]

/-- The methods. -/
def methods : List (TypedMethod Account) :=
  [ ⟨"Withdraw", [.double], fun account arguments =>
      argument arguments 0 fun amount : Binary64 =>
        if exceeds amount account.balance then .fault (.plain "insufficient funds")
        else .write ⟨difference account.balance amount⟩ (.done none)⟩,
    ⟨"Balance", [], fun account _ => returns account.balance⟩ ]

/-- The descriptor. -/
def type : TypeDescriptor := .build "Demo.Account" constructors methods

end Account

end ObjectBridge.Sample
