import ObjectBridge.Proofs.Reflect.Loading

/-!
# Types and the states of their objects

The bodies of a built type are written over one state type, and building the
descriptor only changes how states are represented.  So its constructors end in
members of that type, and its methods, as long as they begin in one, write only such.
A method that begins in a state of another type refuses it.
-/

namespace ObjectBridge

/-! ## What bodies write and end in -/

namespace Program

variable {σ τ α β : Type} {writes : σ → Prop} {ends : α → Prop}

/-- Whatever the answers are that a body gets, every state that it writes and every
result that it ends in is of a kind. -/
def Keeps (writes : σ → Prop) (ends : α → Prop) : Program σ α → Prop
  | done result => ends result
  | fault _ => True
  | panic _ => True
  | write state rest => writes state ∧ rest.Keeps writes ends
  | create _ _ _ next => ∀ answer, (next answer).Keeps writes ends
  | invoke _ _ _ next => ∀ answer, (next answer).Keeps writes ends
  | destroy _ next => ∀ answer, (next answer).Keeps writes ends
  | collect next => ∀ summary, (next summary).Keeps writes ends
  | internalCall _ _ _ next => ∀ found, (next found).Keeps writes ends
  | draw next => ∀ number, (next number).Keeps writes ends

theorem keeps_of_forall (writesAll : ∀ state, writes state) (endsAll : ∀ result, ends result)
    (body : Program σ α) : body.Keeps writes ends := by
  induction body with
  | done result => exact endsAll result
  | fault raised => trivial
  | panic payload => trivial
  | write state rest ih => exact ⟨writesAll state, ih⟩
  | create typeName arguments mode next ih => exact ih
  | invoke token method arguments next ih => exact ih
  | destroy token next ih => exact ih
  | collect next ih => exact ih
  | internalCall className member moduleName next ih => exact ih
  | draw next ih => exact ih

/-- A body over other representations keeps to what it did before. -/
@[simp]
theorem keeps_map {writes : τ → Prop} {ends : β → Prop} {onState : σ → τ} {onResult : α → β}
    (body : Program σ α) : (body.map onState onResult).Keeps writes ends ↔
      body.Keeps (fun state => writes (onState state)) fun result => ends (onResult result) := by
  induction body with
  | done result => exact .rfl
  | fault raised => exact .rfl
  | panic payload => exact .rfl
  | write state rest ih => exact and_congr_right fun _ => ih
  | create typeName arguments mode next ih => exact forall_congr' ih
  | invoke token method arguments next ih => exact forall_congr' ih
  | destroy token next ih => exact forall_congr' ih
  | collect next ih => exact forall_congr' ih
  | internalCall className member moduleName next ih => exact forall_congr' ih
  | draw next ih => exact forall_congr' ih

end Program

/-! ## Invariants of objects -/

/-- Objects of the type begin in states of a kind and, as long as they are in one, their
methods leave them in one. -/
structure TypeDescriptor.Upholds (type : TypeDescriptor) (holds : ObjectState → Prop) :
    Prop where
  constructed : ∀ constructor ∈ type.constructors, ∀ arguments,
    (constructor.body arguments).Keeps (fun _ => True) holds
  called : ∀ method ∈ type.methods, ∀ state arguments, holds state →
    (method.body state arguments).Keeps holds fun _ => True

/-- What holds of every state is upheld by every type. -/
theorem TypeDescriptor.upholds_of_forall {holds : ObjectState → Prop}
    (all : ∀ state, holds state) (type : TypeDescriptor) : type.Upholds holds where
  constructed _ _ _ := Program.keeps_of_forall (fun _ => trivial) all _
  called _ _ _ _ _ := Program.keeps_of_forall all (fun _ => trivial) _

/-- Every type that a registry leads to is of a kind. -/
def TypeRegistry.Finds (registry : TypeRegistry) (holds : TypeDescriptor → Prop) : Prop :=
  ∀ name type, registry.findType? name = some type → holds type

namespace TypeRegistry

variable {registry : TypeRegistry} {holds : TypeDescriptor → Prop}

theorem finds_empty : empty.Finds holds := by
  intro name type found
  cases found

/-- A registry leads only to what was loaded into it. -/
theorem Finds.load (finds : registry.Finds holds) (context : String) {module : TypeModule}
    (all : ∀ type ∈ module.types, holds type) : (registry.load context module).2.Finds holds := by
  intro name type found
  simp only [findType?, TypeRegistry.load, lookup_foldl_indexType, Option.or_eq_some_iff] at found
  rcases found with earlier | ⟨_, new⟩
  · exact finds name type earlier
  · have member := List.mem_of_find?_eq_some new
    split at member
    · exact all type member
    · exact absurd member List.not_mem_nil

end TypeRegistry

/-! ## Methods over a state type -/

section Erasure

variable {σ : Type} [StateType σ] {source : TypedMethod σ} {arguments : List Value}

/-- A method runs its body on the member that a state stands for. -/
@[simp]
theorem TypedMethod.body_erase (receiver : σ) :
    source.erase.body (.erase receiver) arguments =
      (source.body receiver arguments).map ObjectState.erase id := by
  simp [TypedMethod.erase]

/-- A method refuses a state of another type. -/
theorem TypedMethod.body_of_stateType_ne {state : ObjectState}
    (different : state.stateType ≠ StateType.typeName σ) :
    source.erase.body state arguments = .fault (.wrongReceiver (StateType.typeName σ)) := by
  simp [TypedMethod.erase, ObjectState.as?, different]

namespace TypeDescriptor

variable {type : TypeDescriptor}

/-- The descriptor is built for the state type. -/
def IsBuiltFor (σ : Type) [StateType σ] (type : TypeDescriptor) : Prop :=
  ∃ (name : String) (constructors : List (TypedConstructor σ)) (methods : List (TypedMethod σ)),
    type = .build name constructors methods

/-- The descriptor is built for some state type. -/
def IsBuilt (type : TypeDescriptor) : Prop :=
  ∃ (σ : Type) (_ : StateType σ), type.IsBuiltFor σ

/-- The state is one of `σ`, if the descriptor is built for it. -/
def Admits (σ : Type) [StateType σ] (type : TypeDescriptor) (state : ObjectState) : Prop :=
  type.IsBuiltFor σ → ∃ member : σ, state = .erase member

/-- Objects of a type that is built for `σ` begin and stay in states of `σ`. -/
theorem upholds_admits (σ : Type) [StateType σ] (type : TypeDescriptor) :
    type.Upholds (type.Admits σ) := by
  by_cases built : type.IsBuiltFor σ
  · have admitted (member : σ) : type.Admits σ (.erase member) := fun _ => ⟨member, rfl⟩
    obtain ⟨name, constructors, methods, rfl⟩ := built
    constructor
    · intro constructor declared arguments
      obtain ⟨source, _, rfl⟩ := List.mem_map.mp declared
      exact (Program.keeps_map _).mpr (Program.keeps_of_forall (fun _ => trivial) admitted _)
    · intro method declared state arguments admits
      obtain ⟨source, _, rfl⟩ := List.mem_map.mp declared
      obtain ⟨receiver, rfl⟩ := admits ⟨name, constructors, methods, rfl⟩
      rw [TypedMethod.body_erase]
      exact (Program.keeps_map _).mpr (Program.keeps_of_forall admitted (fun _ => trivial) _)
  · exact type.upholds_of_forall fun _ isBuilt => absurd isBuilt built

end TypeDescriptor

end Erasure

end ObjectBridge
