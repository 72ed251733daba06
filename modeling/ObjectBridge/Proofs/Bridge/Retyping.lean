import ObjectBridge.Proofs.Bridge.Reactions
import ObjectBridge.Proofs.Bridge.Runs

/-!
# Editing the types of a bridge

Types may be edited throughout a bridge: those that names lead to, and those of the objects
in memory.  An edit that leaves the name of every type, its constructors, and the method
that answers each call cannot be noticed.  Whatever is asked of the edited bridge is
answered as before, however deep bodies nest, and the bridge afterwards is the one that
there would have been, with its types edited.
-/

namespace ObjectBridge

variable {edit : TypeDescriptor → TypeDescriptor}

/-- An edit of types after which every creation and every call finds the body that it found
before. -/
structure KeepsBodies (edit : TypeDescriptor → TypeDescriptor) : Prop where
  name_eq : ∀ type, (edit type).name = type.name
  constructors_eq : ∀ type, (edit type).constructors = type.constructors
  findMethod?_eq : ∀ type name arity, (edit type).findMethod? name arity =
    type.findMethod? name arity

/-! ## Objects and heaps -/

/-- An object with its type edited. -/
def HeapObject.retype (edit : TypeDescriptor → TypeDescriptor) (object : HeapObject) :
    HeapObject :=
  { object with type := edit object.type }

namespace Heap

/-- A heap with the types of all objects edited. -/
def retype (edit : TypeDescriptor → TypeDescriptor) (heap : Heap) : Heap :=
  { heap with memory := heap.memory.map (HeapObject.retype edit) }

variable {heap : Heap} {id : ObjectId}

theorem find?_retype : (heap.retype edit).find? id = (heap.find? id).map (.retype edit) := by
  rw [find?, find?, retype, List.find?_map]
  rfl

theorem isAlive_retype : (heap.retype edit).isAlive id = heap.isAlive id := by
  rw [isAlive, isAlive, find?_retype, Option.isSome_map]

theorem references_retype : (heap.retype edit).references id = heap.references id := by
  rw [references, references, find?_retype, Option.map_map]
  rfl

theorem garbage_retype : (heap.retype edit).garbage = heap.garbage := by
  simp only [garbage, references_retype]
  rfl

theorem sweep_retype : (heap.retype edit).sweep = heap.sweep.retype edit := by
  simp only [sweep, references_retype, garbage_retype]
  rfl

theorem setState_retype {state : ObjectState} :
    (heap.retype edit).setState id state = (heap.setState id state).retype edit := by
  simp only [setState, retype, List.map_map, Heap.mk.injEq, and_true]
  refine List.map_congr_left fun object _ => ?_
  by_cases same : object.id = id <;> simp [HeapObject.retype, same]

theorem addReference_retype :
    (heap.retype edit).addReference id = (heap.addReference id).retype edit := by
  simp only [addReference, retype, List.map_map, Heap.mk.injEq, and_true]
  refine List.map_congr_left fun object _ => ?_
  by_cases same : object.id = id <;> simp [HeapObject.retype, same]

theorem dropReferences_retype {loses : ObjectId → Bool} :
    (heap.retype edit).dropReferences loses = (heap.dropReferences loses).retype edit := by
  simp only [dropReferences, retype, List.filterMap_map, List.map_filterMap, Heap.mk.injEq,
    and_true]
  refine List.filterMap_congr fun object _ => ?_
  by_cases lost : loses object.id = true
  · by_cases last : object.references ≤ 1 <;>
      simp [HeapObject.retype, HeapObject.withoutReference?, lost, last]
  · simp [HeapObject.retype, lost]

theorem lostStates_retype {loses : ObjectId → Bool} :
    (heap.retype edit).lostStates loses = heap.lostStates loses := by
  simp only [lostStates, retype, List.filter_map, List.map_map]
  rfl

theorem insert_retype {type : TypeDescriptor} {state : ObjectState} :
    (heap.retype edit).insert (edit type) state = (heap.insert type state).retype edit := by
  simp only [insert, retype, List.map_append]
  rfl

end Heap

/-! ## Stores -/

namespace Store

/-- A store with the types of all objects edited. -/
def retype (edit : TypeDescriptor → TypeDescriptor) (store : Store) : Store :=
  { store with heap := store.heap.retype edit }

variable {store : Store} {id : ObjectId} {token : Token}

theorem setState_retype {state : ObjectState} :
    (store.retype edit).setState id state = (store.setState id state).retype edit := by
  simp only [setState, retype, Heap.setState_retype]

theorem addReference_retype :
    (store.retype edit).addReference id = (store.addReference id).retype edit := by
  simp only [addReference, retype, Heap.addReference_retype]

theorem dropReferences_retype {loses : ObjectId → Bool} :
    (store.retype edit).dropReferences loses = (store.dropReferences loses).retype edit := by
  simp only [dropReferences, retype, Heap.dropReferences_retype, Heap.lostStates_retype]

theorem enter_retype : (store.retype edit).enter id = (store.enter id).retype edit :=
  @addReference_retype edit { store with running := id :: store.running } id

theorem leave_retype : (store.retype edit).leave = store.leave.retype edit := by
  rcases store with ⟨heap, handles, _ | ⟨id, rest⟩, kept, dropped, journal⟩
  · rfl
  · exact @dropReferences_retype edit ⟨heap, handles, rest, kept, dropped, journal⟩ _

theorem collect_retype :
    (store.retype edit).collect = (store.collect.1, store.collect.2.retype edit) := by
  have garbageEq : (store.retype edit).heap.garbage = store.heap.garbage := Heap.garbage_retype
  have sweepEq : (store.retype edit).heap.sweep = store.heap.sweep.retype edit :=
    Heap.sweep_retype
  have sweptEq : ({ store.retype edit with heap := store.heap.sweep.retype edit } :
      Store).dropReferences store.heap.garbage.contains =
        (({ store with heap := store.heap.sweep } : Store).dropReferences
          store.heap.garbage.contains).retype edit :=
    @dropReferences_retype edit { store with heap := store.heap.sweep } _
  simp only [collect, garbageEq, sweepEq, sweptEq]
  split <;> rfl

theorem allocate_retype {type : TypeDescriptor} {state : ObjectState} :
    (store.retype edit).allocate (edit type) state =
      ((store.allocate type state).1.retype edit, (store.allocate type state).2.retype edit) := by
  have inserted (ready : Store) :
      (ready.retype edit).insert (edit type) state = (ready.insert type state).retype edit := by
    rw [insert, insert, retype, Heap.insert_retype]
    rfl
  have dueEq : (store.retype edit).heap.isDue = store.heap.isDue := rfl
  simp only [allocate, dueEq, collect_retype]
  split <;> rw [inserted] <;> rfl

theorem addHandle_retype {mode : HandleMode} :
    (store.retype edit).addHandle id mode = (store.addHandle id mode).retype edit := by
  cases mode with
  | owning => exact addReference_retype
  | weak => rfl

theorem register_retype (keeps : KeepsBodies edit) {object : HeapObject} {mode : HandleMode} :
    (store.retype edit).register (object.retype edit) mode =
      (store.register object mode).map fun (token, after) => (token, after.retype edit) := by
  have nameEq : (object.retype edit).type.name = object.type.name := keeps.name_eq object.type
  have handlesEq : (store.retype edit).handles.register (object.retype edit).id mode =
      store.handles.register object.id mode := rfl
  rw [register, register, nameEq, handlesEq]
  cases store.handles.register object.id mode with
  | error cause => rfl
  | ok issued =>
      have added := @addHandle_retype edit { store with handles := issued.2 } object.id mode
      exact congrArg (fun after : Store => Except.ok (issued.1, after.tell _)) added

theorem resolve_retype :
    (store.retype edit).resolve token = (store.resolve token).map (.retype edit) := by
  have aliveEq : (store.retype edit).heap.isAlive = store.heap.isAlive :=
    funext fun id => Heap.isAlive_retype
  have resolveIdEq : (store.retype edit).resolveId token = store.resolveId token := by
    rw [resolveId, aliveEq]
    rfl
  rw [resolve, resolve, resolveIdEq]
  cases store.resolveId token with
  | error cause => rfl
  | ok id =>
      have foundEq : (store.retype edit).heap.find? id = (store.heap.find? id).map (.retype edit) :=
        Heap.find?_retype
      simp only [foundEq]
      cases store.heap.find? id <;> rfl

theorem dropCell_retype {cell : Option Cell} :
    (store.retype edit).dropCell cell = (store.dropCell cell).retype edit := by
  rcases cell with _ | ⟨_ | _, id⟩
  · rfl
  · exact dropReferences_retype
  · rfl

theorem release_retype :
    (store.retype edit).release token = (store.release token).map (.retype edit) := by
  have handlesEq : (store.retype edit).handles = store.handles := rfl
  rw [release, release, handlesEq]
  cases store.handles.release token with
  | error cause => rfl
  | ok handles =>
      have dropped := @dropCell_retype edit
        (({ store with handles } : Store).tell (.released token)) (store.handles.cell? token)
      exact congrArg Except.ok dropped

end Store

/-! ## Bridges -/

/-- A registry with the types that names lead to edited. -/
def TypeRegistry.retype (edit : TypeDescriptor → TypeDescriptor) (registry : TypeRegistry) :
    TypeRegistry :=
  { registry with index := registry.index.map fun (name, type) => (name, edit type) }

theorem TypeRegistry.findType?_retype {registry : TypeRegistry} {name : String} :
    (registry.retype edit).findType? name = (registry.findType? name).map edit := by
  rcases registry with ⟨contexts, index⟩
  simp only [findType?, retype]
  induction index with
  | nil => rfl
  | cons entry rest ih =>
      rw [List.map_cons, List.lookup_cons, List.lookup_cons, ih]
      cases name == entry.1 <;> rfl

namespace Bridge

/-- A bridge with all types edited. -/
def retype (edit : TypeDescriptor → TypeDescriptor) (bridge : Bridge) : Bridge :=
  { bridge with registry := bridge.registry.retype edit, store := bridge.store.retype edit }

variable {bridge : Bridge} {id : ObjectId} {token : Token} {arguments : List Value}

theorem setState_retype {state : ObjectState} :
    (bridge.retype edit).setState id state = (bridge.setState id state).retype edit :=
  congrArg (fun store => { bridge.retype edit with store }) Store.setState_retype

theorem enter_retype : (bridge.retype edit).enter id = (bridge.enter id).retype edit :=
  congrArg (fun store => { bridge.retype edit with store }) Store.enter_retype

theorem leave_retype : (bridge.retype edit).leave = bridge.leave.retype edit :=
  congrArg (fun store => { bridge.retype edit with store }) Store.leave_retype

theorem collect_retype :
    (bridge.retype edit).collect = (bridge.collect.1, bridge.collect.2.retype edit) :=
  congrArg (fun ended => (ended.1, { bridge.retype edit with store := ended.2 }))
    Store.collect_retype

theorem destroy_retype : (bridge.retype edit).destroy token =
    ((bridge.destroy token).1, (bridge.destroy token).2.retype edit) := by
  have released : (bridge.retype edit).store.release token =
      (bridge.store.release token).map (.retype edit) := Store.release_retype
  rw [destroy, destroy, released]
  cases bridge.store.release token <;> rfl

theorem resolve_retype :
    (bridge.retype edit).resolve token = (bridge.resolve token).map (.retype edit) := by
  have resolved : (bridge.retype edit).store.resolve token =
      (bridge.store.resolve token).map (.retype edit) := Store.resolve_retype
  rw [resolve, resolve, resolved]
  cases bridge.store.resolve token <;> rfl

theorem allocate_retype {type : TypeDescriptor} {state : ObjectState} :
    (bridge.retype edit).allocate (edit type) state =
      ((bridge.allocate type state).1.retype edit,
        (bridge.allocate type state).2.retype edit) :=
  congrArg (fun ended => (ended.1, { bridge.retype edit with store := ended.2 }))
    Store.allocate_retype

/-! ## Preparation -/

section Preparation

variable (keeps : KeepsBodies edit)

include keeps

theorem register_retype {object : HeapObject} {mode : HandleMode} :
    (bridge.retype edit).register (object.retype edit) mode =
      ((bridge.register object mode).1, (bridge.register object mode).2.retype edit) := by
  have registered : (bridge.retype edit).store.register (object.retype edit) mode = _ :=
    Store.register_retype keeps
  rw [register, register, registered]
  cases bridge.store.register object mode <;> rfl

theorem prepareConstruction_retype {type : TypeDescriptor} :
    prepareConstruction (edit type) arguments =
      (prepareConstruction type arguments).map fun work => { work with type := edit type } := by
  have selectedEq : (edit type).selectConstructor arguments = type.selectConstructor arguments := by
    simp only [TypeDescriptor.selectConstructor, keeps.constructors_eq]
    generalize resolveOverload ConstructorInfo.parameters type.constructors
      (arguments.map Value.kind) = resolved
    cases resolved <;> simp only [TypeDescriptor.constructorAnswer, keeps.name_eq]
  have targetEq (constructor : ConstructorInfo) :
      (edit type).constructorSignature constructor = type.constructorSignature constructor := by
    rw [TypeDescriptor.constructorSignature, TypeDescriptor.constructorSignature, keeps.name_eq]
  simp only [prepareConstruction, selectedEq, targetEq]
  cases type.selectConstructor arguments with
  | error cause => rfl
  | ok constructor =>
      simp only [bind, Except.bind]
      cases bindArguments (type.constructorSignature constructor) constructor.parameters
        arguments <;> rfl

theorem prepareInvocation_retype {object : HeapObject} {name : String} :
    prepareInvocation (object.retype edit) name arguments =
      prepareInvocation object name arguments := by
  have foundEq : (object.retype edit).type.findMethod? name arguments.length =
      object.type.findMethod? name arguments.length := keeps.findMethod?_eq _ _ _
  have nameEq : (object.retype edit).type.name = object.type.name := keeps.name_eq _
  simp only [prepareInvocation, foundEq, TypeDescriptor.methodSignature, nameEq]
  rfl

end Preparation

end Bridge

/-! ## Runs -/

/-- A run, and one that does the same on a bridge with edited types. -/
def Run.Follows {α : Type} (edit : TypeDescriptor → TypeDescriptor) (run edited : Run α) : Prop :=
  ∀ bridge, edited (bridge.retype edit) =
    (run bridge).map fun (answer, after) => (answer, after.retype edit)

/-- A run that takes no notice of an edit of types. -/
abbrev Run.Indifferent {α : Type} (edit : TypeDescriptor → TypeDescriptor) (run : Run α) : Prop :=
  Run.Follows edit run run

namespace Run.Follows

variable {α β : Type}

theorem pure (answer : α) : Indifferent edit (Pure.pure answer : Run α) := fun _ => rfl

theorem bind {first edited : Run α} {next editedNext : α → Run β}
    (start : Follows edit first edited)
    (rest : ∀ answer, Follows edit (next answer) (editedNext answer)) :
    Follows edit (first >>= next) (edited >>= editedNext) := by
  intro bridge
  cases ran : first bridge with
  | error halt =>
      simp only [Bind.bind, StateT.bind, start bridge, ran]
      rfl
  | ok ended =>
      simp only [Bind.bind, StateT.bind, start bridge, ran]
      exact rest ended.1 ended.2

theorem modifyGet {change : Bridge → α × Bridge}
    (commutes : ∀ bridge, change (bridge.retype edit) =
      ((change bridge).1, (change bridge).2.retype edit)) :
    Indifferent edit (MonadStateOf.modifyGet change : Run α) :=
  fun bridge => congrArg Except.ok (commutes bridge)

theorem modify {change : Bridge → Bridge}
    (commutes : ∀ bridge, change (bridge.retype edit) = (change bridge).retype edit) :
    Indifferent edit (modify change : Run Unit) :=
  fun bridge => congrArg (fun after => Except.ok ((), after)) (commutes bridge)

end Run.Follows

/-- Services that take no notice of an edit of types. -/
structure Services.Indifferent (edit : TypeDescriptor → TypeDescriptor) (services : Services) :
    Prop where
  create : ∀ typeName arguments mode,
    Run.Indifferent edit (services.create typeName arguments mode)
  invoke : ∀ token method arguments,
    Run.Indifferent edit (services.invoke token method arguments)

namespace Services.Indifferent

variable {services : Services} (indifferent : services.Indifferent edit)

include indifferent

/-- A body takes no notice if what it reaches does not. -/
theorem run {σ α : Type} {save : σ → Bridge → Bridge}
    (commutes : ∀ state bridge, save state (bridge.retype edit) = (save state bridge).retype edit)
    (body : Program σ α) : Run.Indifferent edit (body.run services save) := by
  induction body with
  | done result => exact .pure _
  | fault raised => exact .pure _
  | panic payload => exact .pure _
  | write state rest ih => exact (Run.Follows.modify (commutes state)).bind fun _ => ih
  | create typeName arguments mode next ih =>
      exact (indifferent.create typeName arguments mode).bind ih
  | invoke token method arguments next ih =>
      exact (indifferent.invoke token method arguments).bind ih
  | destroy token next ih =>
      exact (Run.Follows.modifyGet fun _ => Bridge.destroy_retype).bind ih
  | collect next ih => exact (Run.Follows.modifyGet fun _ => Bridge.collect_retype).bind ih
  -- What follows is handed the bridge itself, of which it looks at what no edit touches.
  | internalCall className member moduleName next ih =>
      exact fun bridge => ih (bridge.calls.internalCall? className member moduleName) bridge
  | draw next ih =>
      exact fun bridge => ih (bridge.drawn + 1) { bridge with drawn := bridge.drawn + 1 }

theorem runInvocation (work : Bridge.Invocation) :
    Run.Indifferent edit (Bridge.runInvocation services work) := by
  intro bridge
  have runningEq : (bridge.retype edit).store.running = bridge.store.running := rfl
  rw [Bridge.runInvocation, Run.get_bind, Run.get_bind, runningEq]
  split
  · rfl
  · refine ((Run.Follows.modify fun _ => Bridge.enter_retype).bind fun _ => ?_) bridge
    refine (indifferent.run (fun _ _ => Bridge.setState_retype) work.body).bind fun _ => ?_
    exact (Run.Follows.modify fun _ => Bridge.leave_retype).bind fun _ => .pure _

variable (keeps : KeepsBodies edit)

include keeps

/-- A constructor that returns makes an object of the edited type. -/
theorem runConstruction (work : Bridge.Construction) (mode : HandleMode) :
    Run.Follows edit (Bridge.runConstruction services work mode)
      (Bridge.runConstruction services { work with type := edit work.type } mode) := by
  refine (indifferent.run (fun state => state.elim) work.body).bind fun result bridge => ?_
  cases result with
  | error raised => rfl
  | ok state =>
      have allocated := @Bridge.allocate_retype edit bridge work.type state
      change Except.ok (((bridge.retype edit).allocate (edit work.type) state).2.register
        ((bridge.retype edit).allocate (edit work.type) state).1 mode) = _
      rw [allocated, Bridge.register_retype keeps]
      rfl

theorem createWith (typeName : String) (arguments : List Value) (mode : HandleMode) :
    Run.Indifferent edit (Bridge.createWith services typeName arguments mode) := by
  intro bridge
  have foundEq : (bridge.retype edit).registry.findType? typeName = _ :=
    TypeRegistry.findType?_retype
  rw [Bridge.createWith, Run.get_bind, Run.get_bind, foundEq]
  cases bridge.registry.findType? typeName with
  | none => rfl
  | some type =>
      simp only [Option.map_some, Bridge.prepareConstruction_retype keeps]
      cases prepared : Bridge.prepareConstruction type arguments with
      | error cause => rfl
      | ok work =>
          obtain ⟨_, _, _, _, rfl⟩ := Bridge.prepareConstruction_eq_ok_iff.mp prepared
          exact indifferent.runConstruction keeps _ mode bridge

theorem invokeWith (token : Token) (method : String) (arguments : List Value) :
    Run.Indifferent edit (Bridge.invokeWith services token method arguments) := by
  intro bridge
  rw [Bridge.invokeWith, Run.get_bind, Run.get_bind, Bridge.resolve_retype]
  cases bridge.resolve token with
  | error error => rfl
  | ok object =>
      simp only [Except.map, Bridge.prepareInvocation_retype keeps]
      cases Bridge.prepareInvocation object method arguments with
      | error cause => rfl
      | ok work => exact indifferent.runInvocation work bridge

end Services.Indifferent

/-- Nothing that is asked of a bridge takes notice of an edit of types that keeps bodies,
whatever the depth that bodies may nest to. -/
theorem Bridge.services_indifferent (keeps : KeepsBodies edit) (depth : Nat) :
    (Bridge.services depth).Indifferent edit := by
  induction depth with
  | zero => exact ⟨fun _ _ _ _ => rfl, fun _ _ _ _ => rfl⟩
  | succ depth ih => exact ⟨ih.createWith keeps, ih.invokeWith keeps⟩

end ObjectBridge
