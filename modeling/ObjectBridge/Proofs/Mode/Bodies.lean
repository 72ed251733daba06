import ObjectBridge.Proofs.Twin.Related

/-!
# Bodies that differ in their modes

Two bodies are the same but for modes if they do the same things in the same order, and
go on in the same way with every answer, except that the handles that they ask for may be
owning in one and weak in the other.  So may the handles that hosts ask for.
-/

namespace ObjectBridge

/-! ## Bodies -/

/-- Bodies that differ only in the modes of the handles that they ask for. -/
inductive Program.SameButModes {σ α : Type} : Program σ α → Program σ α → Prop
  | done (result : α) : SameButModes (.done result) (.done result)
  | fault (raised : Fault) : SameButModes (.fault raised) (.fault raised)
  | panic (payload : PanicPayload) : SameButModes (.panic payload) (.panic payload)
  | write (state : σ) {rest other : Program σ α} :
      SameButModes rest other → SameButModes (.write state rest) (.write state other)
  | create (typeName : String) (arguments : List Value) (mode otherMode : HandleMode)
      {next other : Except BridgeError (Option Token) → Program σ α} :
      (∀ outcome, SameButModes (next outcome) (other outcome)) →
      SameButModes (.create typeName arguments mode next)
        (.create typeName arguments otherMode other)
  | invoke (token : Token) (method : String) (arguments : List Value)
      {next other : Except BridgeError (Option Value) → Program σ α} :
      (∀ outcome, SameButModes (next outcome) (other outcome)) →
      SameButModes (.invoke token method arguments next) (.invoke token method arguments other)
  | destroy (token : Token) {next other : Except BridgeError Unit → Program σ α} :
      (∀ outcome, SameButModes (next outcome) (other outcome)) →
      SameButModes (.destroy token next) (.destroy token other)
  | collect {next other : CollectSummary → Program σ α} :
      (∀ summary, SameButModes (next summary) (other summary)) →
      SameButModes (.collect next) (.collect other)
  | internalCall (className member moduleName : String)
      {next other : Option Address → Program σ α} :
      (∀ found, SameButModes (next found) (other found)) →
      SameButModes (.internalCall className member moduleName next)
        (.internalCall className member moduleName other)
  | draw {next other : Nat → Program σ α} :
      (∀ number, SameButModes (next number) (other number)) →
      SameButModes (.draw next) (.draw other)

/-- Registries in which each name leads to the same type but for modes. -/
def TypeRegistry.SameButModes (first second : TypeRegistry) : Prop :=
  ∀ name, Option.Rel (TypeDescriptor.Related Program.SameButModes) (first.findType? name)
    (second.findType? name)

/-! ## Requests -/

/-- Requests that differ only in the mode of the handle that is asked for. -/
inductive Request.SameButModes : Request → Request → Prop
  | create (typeName : String) (arguments : List Value) (mode otherMode : HandleMode) :
      SameButModes (.create typeName arguments mode) (.create typeName arguments otherMode)
  | invoke (token : Token) (method : String) (arguments : List Value) :
      SameButModes (.invoke token method arguments) (.invoke token method arguments)
  | destroy (token : Token) : SameButModes (.destroy token) (.destroy token)
  | collect : SameButModes .collect .collect

theorem Request.SameButModes.refl (request : Request) : request.SameButModes request := by
  cases request with
  | create typeName arguments mode => exact .create typeName arguments mode mode
  | invoke token method arguments => exact .invoke token method arguments
  | destroy token => exact .destroy token
  | collect => exact .collect

namespace Program.SameButModes

variable {σ α : Type} {body other : Program σ α}

theorem request?_rel (same : body.SameButModes other) :
    Option.Rel Request.SameButModes body.request? other.request? := by
  cases same with
  | create typeName arguments mode otherMode _ =>
      exact .some (.create typeName arguments mode otherMode)
  | invoke token method arguments _ => exact .some (.invoke token method arguments)
  | destroy token _ => exact .some (.destroy token)
  | collect _ => exact .some .collect
  | _ => exact .none

theorem resume (same : body.SameButModes other) (answer : Answer) :
    (body.resume answer).SameButModes (other.resume answer) := by
  -- An answer to something else than what was asked changes nothing.
  have unchanged := same
  cases same with
  | create _ _ _ _ rest =>
      cases answer with
      | created outcome => exact rest outcome
      | _ => exact unchanged
  | invoke _ _ _ rest =>
      cases answer with
      | invoked outcome => exact rest outcome
      | _ => exact unchanged
  | destroy _ rest =>
      cases answer with
      | destroyed outcome => exact rest outcome
      | _ => exact unchanged
  | collect rest =>
      cases answer with
      | collected summary => exact rest summary
      | _ => exact unchanged
  | _ => exact unchanged

theorem immediate?_eq (same : body.SameButModes other) :
    body.immediate? = other.immediate? := by
  cases same <;> rfl

end Program.SameButModes

/-! ## Frames -/

/-- Bodies in progress that are the same but for modes. -/
inductive Frame.SameButModes : Frame → Frame → Prop
  | construction {work other : Bridge.Construction} (mode otherMode : HandleMode) :
      work.Related Program.SameButModes other →
      SameButModes (.construction work mode) (.construction other otherMode)
  | invocation {work other : Bridge.Invocation} :
      work.Related Program.SameButModes other →
      SameButModes (.invocation work) (.invocation other)

namespace Frame.SameButModes

variable {frame other : Frame}

theorem request?_rel (same : frame.SameButModes other) :
    Option.Rel Request.SameButModes frame.request? other.request? := by
  cases same with
  | construction mode otherMode works => exact works.body.request?_rel
  | invocation works => exact works.body.request?_rel

theorem resume (same : frame.SameButModes other) (answer : Answer) :
    (frame.resume answer).SameButModes (other.resume answer) := by
  cases same with
  | construction mode otherMode works =>
      exact .construction mode otherMode ⟨works.type, works.target_eq, works.body.resume answer⟩
  | invocation works =>
      exact .invocation ⟨works.receiver_eq, works.target_eq, works.body.resume answer⟩

end Frame.SameButModes

end ObjectBridge
