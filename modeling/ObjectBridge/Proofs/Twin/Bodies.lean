import ObjectBridge.Proofs.Twin.Related

/-!
# Bodies that differ in their collections

Two bodies are the same but for collections if one becomes the other when
requests to collect are put in or taken out, and neither goes on differently for
what a collection answers.  Types and registries are the same but for collections
if their bodies are, and then constructors and methods are bound alike in both.
-/

namespace ObjectBridge

/-! ## The relation -/

/-- Bodies that differ only in requests to collect, whose answers they ignore. -/
inductive Program.SameButCollections {σ α : Type} : Program σ α → Program σ α → Prop
  | done (result : α) : SameButCollections (.done result) (.done result)
  | fault (raised : Fault) : SameButCollections (.fault raised) (.fault raised)
  | panic (payload : PanicPayload) : SameButCollections (.panic payload) (.panic payload)
  | write (state : σ) {rest other : Program σ α} :
      SameButCollections rest other →
      SameButCollections (.write state rest) (.write state other)
  | create (typeName : String) (arguments : List Value) (mode : HandleMode)
      {next other : Except BridgeError (Option Token) → Program σ α} :
      (∀ outcome, SameButCollections (next outcome) (other outcome)) →
      SameButCollections (.create typeName arguments mode next)
        (.create typeName arguments mode other)
  | invoke (token : Token) (method : String) (arguments : List Value)
      {next other : Except BridgeError (Option Value) → Program σ α} :
      (∀ outcome, SameButCollections (next outcome) (other outcome)) →
      SameButCollections (.invoke token method arguments next)
        (.invoke token method arguments other)
  | destroy (token : Token) {next other : Except BridgeError Unit → Program σ α} :
      (∀ outcome, SameButCollections (next outcome) (other outcome)) →
      SameButCollections (.destroy token next) (.destroy token other)
  | internalCall (className member moduleName : String)
      {next other : Option Address → Program σ α} :
      (∀ found, SameButCollections (next found) (other found)) →
      SameButCollections (.internalCall className member moduleName next)
        (.internalCall className member moduleName other)
  | draw {next other : Nat → Program σ α} :
      (∀ number, SameButCollections (next number) (other number)) →
      SameButCollections (.draw next) (.draw other)
  | collectLeft {next : CollectSummary → Program σ α} {other : Program σ α} :
      (∀ summary, SameButCollections (next summary) other) →
      SameButCollections (.collect next) other
  | collectRight {body : Program σ α} {other : CollectSummary → Program σ α} :
      (∀ summary, SameButCollections body (other summary)) →
      SameButCollections body (.collect other)

/-- Constructors with the same parameters and the same bodies but for collections. -/
structure ConstructorInfo.SameButCollections (first second : ConstructorInfo) : Prop where
  parameters_eq : first.parameters = second.parameters
  body : ∀ arguments, (first.body arguments).SameButCollections (second.body arguments)

/-- Methods with the same name and parameters and the same bodies but for
collections. -/
structure MethodInfo.SameButCollections (first second : MethodInfo) : Prop where
  name_eq : first.name = second.name
  parameters_eq : first.parameters = second.parameters
  body : ∀ state arguments,
    (first.body state arguments).SameButCollections (second.body state arguments)

/-- Types with the same name and the same declarations but for collections. -/
structure TypeDescriptor.SameButCollections (first second : TypeDescriptor) : Prop where
  name_eq : first.name = second.name
  constructors :
    List.Forall₂ ConstructorInfo.SameButCollections first.constructors second.constructors
  methods : List.Forall₂ MethodInfo.SameButCollections first.methods second.methods

/-- Registries in which each name leads to the same type but for collections. -/
def TypeRegistry.SameButCollections (first second : TypeRegistry) : Prop :=
  ∀ name, Option.Rel TypeDescriptor.SameButCollections (first.findType? name)
    (second.findType? name)

namespace TypeDescriptor

variable {first second : TypeDescriptor}

theorem SameButCollections.related (same : first.SameButCollections second) :
    first.Related Program.SameButCollections second where
  name_eq := same.name_eq
  constructors := same.constructors.imp fun _ _ here => ⟨here.parameters_eq, here.body⟩
  methods := same.methods.imp fun _ _ here => ⟨here.name_eq, here.parameters_eq, here.body⟩

theorem Related.sameButCollections (types : first.Related Program.SameButCollections second) :
    first.SameButCollections second where
  name_eq := types.name_eq
  constructors := types.constructors.imp fun _ _ here => ⟨here.parameters_eq, here.body⟩
  methods := types.methods.imp fun _ _ here => ⟨here.name_eq, here.parameters_eq, here.body⟩

end TypeDescriptor

/-! ## Binding -/

namespace Bridge

/-- Constructors with the same target and the same bodies but for collections, of
types that are the same but for collections. -/
structure Construction.SameButCollections (first second : Construction) : Prop where
  type : first.type.SameButCollections second.type
  target_eq : first.target = second.target
  body : first.body.SameButCollections second.body

/-- Methods of the same receiver with the same target and the same bodies but for
collections. -/
structure Invocation.SameButCollections (first second : Invocation) : Prop where
  receiver_eq : first.receiver = second.receiver
  target_eq : first.target = second.target
  body : first.body.SameButCollections second.body

theorem Construction.Related.sameButCollections {work other : Construction}
    (related : work.Related Program.SameButCollections other) : work.SameButCollections other :=
  ⟨related.type.sameButCollections, related.target_eq, related.body⟩

theorem Invocation.Related.sameButCollections {work other : Invocation}
    (related : work.Related Program.SameButCollections other) : work.SameButCollections other :=
  ⟨related.receiver_eq, related.target_eq, related.body⟩

end Bridge

end ObjectBridge
