import ObjectBridge.Proofs.Bridge.Invariants
import ObjectBridge.Proofs.Bridge.Signatures
import ObjectBridge.Sample.Account

/-!
# Objects are in states of their own types

States are erased, so a method must check that the state it is given is of the type it
was written for.  On a bridge that knows only built types no call through a token or on
an object fails that check: an object keeps the descriptor that its constructor was
found on, its methods are looked up there, and only they write its state.
-/

namespace ObjectBridge

open Machine

namespace Bridge

/-- What a call on a bridge of built types comes to: it is refused before any body runs, or
the method that its receiver's descriptor was built with runs on the member that the
receiver's state stands for. -/
inductive TypedCall (services : Services) (bridge : Bridge) (token : Token) (method : String)
    (arguments : List Value) : Prop
  | refused {error : BridgeError} :
      (∀ target raised, error ≠ .invocation target raised) →
      invokeWith services token method arguments bridge = .ok (.error error, bridge) →
      TypedCall services bridge token method arguments
  | runs {object : HeapObject} {σ : Type} [StateType σ] {name : String}
      {constructors : List (TypedConstructor σ)} {methods : List (TypedMethod σ)}
      {source : TypedMethod σ} {receiver : σ} {received : List Value} :
      bridge.resolve token = .ok object →
      object.type = .build name constructors methods →
      object.state = .erase receiver →
      source ∈ methods →
      object.type.findMethod? method arguments.length = some source.erase →
      Passed source.parameters arguments received →
      invokeWith services token method arguments bridge =
        runInvocation services
          ⟨object.id, object.type.methodSignature source.erase,
            (source.body receiver received).map ObjectState.erase id⟩
          bridge →
      TypedCall services bridge token method arguments

end Bridge

namespace Machine

variable {options : BridgeOptions} {registry : TypeRegistry} {machine : Machine}

/-- Every object is of a built type, and in a state of each type that it is built for. -/
theorem Runs.typed (runs : Runs TypeDescriptor.IsBuilt (start options registry) machine)
    {id : ObjectId} {object : HeapObject}
    (found : machine.bridge.store.heap.find? id = some object) :
    object.type.IsBuilt ∧
      ∀ (σ : Type) [StateType σ], object.type.Admits σ object.state := by
  have contentEq : machine.content? id = some (object.type, object.state) := by
    rw [content?, Heap.content?, found, Option.map_some]
  have isBuilt : object.type.IsBuilt := by
    have closed (type : TypeDescriptor) (_ : type.IsBuilt) :=
      type.upholds_of_forall fun _ => trivial
    exact ((runs.upholds closed (upholds_start options registry)).contents _ _ _ contentEq).1
  refine ⟨isBuilt, ?_⟩
  intro σ _
  have closed (type : TypeDescriptor) (_ : type.IsBuilt) := type.upholds_admits σ
  exact ((runs.upholds closed (upholds_start options registry)).contents _ _ _ contentEq).2

/-- No call fails to find its receiver in a state of its own type. -/
theorem Runs.typedCall (runs : Runs TypeDescriptor.IsBuilt (start options registry) machine)
    (services : Services) (token : Token) (method : String) (arguments : List Value) :
    Bridge.TypedCall services machine.bridge token method arguments := by
  cases Bridge.call services machine.bridge token method arguments with
  | unresolved resolved outcome =>
      obtain ⟨cause, rfl⟩ := Bridge.exists_handle_of_resolve resolved
      refine .refused ?_ outcome
      intro target raised same
      cases same
  | missing resolved found outcome =>
      refine .refused ?_ outcome
      intro target raised same
      cases same
  | mismatched resolved found mismatch outcome =>
      refine .refused ?_ outcome
      intro target raised same
      cases same
  | @runs object info received resolved found passed outcome =>
      obtain ⟨⟨σ, _, name, constructors, methods, typeEq⟩, admits⟩ :=
        runs.typed (Bridge.find?_of_resolve resolved)
      obtain ⟨receiver, stateEq⟩ := admits σ ⟨name, constructors, methods, typeEq⟩
      have declared := (TypeDescriptor.of_findMethod? found).1
      rw [typeEq] at declared
      obtain ⟨source, member, rfl⟩ := List.mem_map.mp declared
      rw [stateEq, TypedMethod.body_erase] at outcome
      exact .runs resolved typeEq stateEq member found passed outcome

/-- In every state that a host reaches with a bridge on which only built types are found,
every object is in a state of the type that its descriptor was built for, so every method
of the descriptor accepts it, and a call either runs no body or the body of such a method
on that state.  A method that was written for another type refuses a state without
running its body, and changes nothing. -/
theorem states_have_declared_types
    (runs : Runs TypeDescriptor.IsBuilt (start options registry) machine) :
    (∀ number object, machine.bridge.store.heap.find? number = some object →
      object.type.IsBuilt ∧
      ∀ (σ : Type) [StateType σ] (name : String) (constructors : List (TypedConstructor σ))
        (methods : List (TypedMethod σ)),
        object.type = .build name constructors methods →
        ∃ receiver : σ, object.state = .erase receiver ∧
          ∀ source ∈ methods, ∀ received, source.erase.body object.state received =
            (source.body receiver received).map ObjectState.erase id) ∧
    (∀ services token method arguments,
      Bridge.TypedCall services machine.bridge token method arguments) ∧
    ∀ (σ : Type) [StateType σ] (source : TypedMethod σ) (state : ObjectState)
      (arguments : List Value), state.stateType ≠ StateType.typeName σ →
      source.erase.body state arguments = .fault (.wrongReceiver (StateType.typeName σ)) ∧
      ∀ services save bridge, (source.erase.body state arguments).run services save bridge =
        .ok (.error (.wrongReceiver (StateType.typeName σ)), bridge) := by
  refine ⟨?_, runs.typedCall, ?_⟩
  · intro number object found
    obtain ⟨isBuilt, admits⟩ := runs.typed found
    refine ⟨isBuilt, ?_⟩
    intro σ _ name constructors methods typeEq
    obtain ⟨receiver, stateEq⟩ := admits σ ⟨name, constructors, methods, typeEq⟩
    refine ⟨receiver, stateEq, ?_⟩
    intro source _ received
    rw [stateEq, TypedMethod.body_erase]
  · intro σ _ source state arguments different
    have refused : source.erase.body state arguments = _ :=
      TypedMethod.body_of_stateType_ne different
    refine ⟨refused, ?_⟩
    intro services save bridge
    rw [refused]
    rfl

/-- Two types of one name, the first of which keeps it. -/
def namesakes : TypeRegistry :=
  let second := .build "Demo.Counter" Sample.Account.constructors Sample.Account.methods
  let registry := (TypeRegistry.empty.load "Default" ⟨"Counting", "1", [Sample.Counter.type], []⟩).2
  (registry.load "Default" ⟨"Banking", "1", [second], []⟩).2

theorem finds_namesakes : namesakes.Finds TypeDescriptor.IsBuilt := by
  refine .load (.load TypeRegistry.finds_empty _ ?_) _ ?_
  · intro type member
    rw [List.mem_singleton.mp member]
    exact ⟨Sample.Counter, inferInstance, _, _, _, rfl⟩
  · intro type member
    rw [List.mem_singleton.mp member]
    exact ⟨Sample.Account, inferInstance, _, _, _, rfl⟩

/-- An object of a type that shares its name is in the state of the type that was loaded
first, and no method of the other takes it. -/
theorem states_have_declared_types_namesake :
    let created := (proceed (.create "Demo.Counter" [.long 5] .owning) 2
      (start .defaults namesakes)).2
    let object : HeapObject := ⟨⟨1⟩, Sample.Counter.type, .erase (⟨5⟩ : Sample.Counter), 2⟩
    created.bridge.resolve (.ofSlot 0 0) = .ok object ∧
      (∃ counter : Sample.Counter, object.state = .erase counter) ∧
      Bridge.TypedCall (Bridge.services 1) created.bridge (.ofSlot 0 0) "Get" [] ∧
      ∀ source ∈ Sample.Account.methods,
        source.erase.body object.state [] = .fault (.wrongReceiver "Account") := by
  intro created object
  have finds : ∀ taken < 2, (proceed (.create "Demo.Counter" [.long 5] .owning) taken
      (start .defaults namesakes)).2.bridge.registry.Finds TypeDescriptor.IsBuilt := by
    intro taken before
    match taken, before with
    | 0, _ => exact finds_namesakes
    | 1, _ => exact finds_namesakes
  have runs : Runs TypeDescriptor.IsBuilt (start .defaults namesakes) created :=
    runs_proceed _ _ _ finds
  obtain ⟨typed, calls, refuses⟩ := states_have_declared_types runs
  have found : created.bridge.store.heap.find? ⟨1⟩ = some object := rfl
  have resolved : created.bridge.resolve (.ofSlot 0 0) = .ok object := rfl
  have different : object.state.stateType ≠ StateType.typeName Sample.Account := by decide
  refine ⟨resolved, ?_, calls _ _ _ _, ?_⟩
  · obtain ⟨receiver, stateEq, _⟩ :=
      (typed ⟨1⟩ object found).2 Sample.Counter "Demo.Counter" _ _ rfl
    exact ⟨receiver, stateEq⟩
  · intro source _
    exact (refuses Sample.Account source object.state [] different).1

end Machine

end ObjectBridge
