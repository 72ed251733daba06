import ObjectBridge.Proofs.Bridge.Valid
import ObjectBridge.Proofs.Heap.Contents
import ObjectBridge.Proofs.Reflect.Selection
import ObjectBridge.Proofs.Reflect.Typed

/-!
# Invariants of objects

What the constructors of every type establish and its methods keep holds of every object
at every moment, also in the middle of bodies.  The state of an object is written by the
methods of its own type only, whatever other types are called, and an object never
changes its type.
-/

namespace ObjectBridge

/-! ## Bodies -/

namespace Program

variable {σ α : Type} {writes : σ → Prop} {ends : α → Prop} {body next : Program σ α}

theorem Keeps.resume (keeps : body.Keeps writes ends) (answer : Answer) :
    (body.resume answer).Keeps writes ends := by
  cases body with
  | create typeName arguments mode next =>
      cases answer with
      | created outcome => exact keeps outcome
      | _ => exact keeps
  | invoke token method arguments next =>
      cases answer with
      | invoked outcome => exact keeps outcome
      | _ => exact keeps
  | destroy token next =>
      cases answer with
      | destroyed outcome => exact keeps outcome
      | _ => exact keeps
  | collect next =>
      cases answer with
      | collected summary => exact keeps summary
      | _ => exact keeps
  | _ => exact keeps

variable {save : σ → Bridge → Bridge} {bridge after : Bridge}

theorem Keeps.advance? (keeps : body.Keeps writes ends)
    (advanced : body.advance? save bridge = some (next, after)) : next.Keeps writes ends := by
  cases body with
  | write state rest =>
      cases advanced
      exact keeps.2
  | internalCall className member moduleName next =>
      cases advanced
      exact keeps _
  | draw next =>
      cases advanced
      exact keeps _
  | _ => cases advanced

/-- A body that goes on by itself writes a state or leaves the store alone. -/
theorem store_of_advance? (advanced : body.advance? save bridge = some (next, after)) :
    (∃ state, body = .write state next ∧ after = save state bridge) ∨
      after.store = bridge.store := by
  cases body with
  | write state rest =>
      cases advanced
      exact .inl ⟨state, rfl, rfl⟩
  | internalCall className member moduleName next =>
      cases advanced
      exact .inr rfl
  | draw next =>
      cases advanced
      exact .inr rfl
  | _ => cases advanced

theorem eq_done_of_immediate? {result : α} (ended : body.immediate? = some (.ok result)) :
    body = .done result := by
  cases body with
  | done =>
      cases ended
      rfl
  | _ => cases ended

end Program

namespace Bridge

variable {bridge after : Bridge} {request : Request}

theorem find?_of_resolve {token : Token} {object : HeapObject}
    (resolved : bridge.resolve token = .ok object) :
    bridge.store.heap.find? object.id = some object := by
  rw [resolve] at resolved
  cases stored : bridge.store.resolve token with
  | error cause =>
      rw [stored] at resolved
      contradiction
  | ok found =>
      rw [stored] at resolved
      cases resolved
      exact (Store.resolve_eq_ok_iff.mp stored).2

/-- A constructor that begins is one of a type that the registry leads to. -/
theorem exists_of_begun_construction {work : Construction} {mode : HandleMode}
    (begun : bridge.react request = .begun (.construction work mode) after) :
    ∃ name constructor received, bridge.registry.findType? name = some work.type ∧
      constructor ∈ work.type.constructors ∧ work.body = constructor.body received := by
  cases begins_of_react begun with
  | construction found prepared =>
      obtain ⟨constructor, received, selected, _, rfl⟩ := prepareConstruction_eq_ok_iff.mp prepared
      have declared := (TypeDescriptor.exists_bind_of_selectConstructor selected).1
      exact ⟨_, constructor, received, found, declared, rfl⟩

/-- A method that begins is one of the type of its receiver, in the state of that. -/
theorem exists_of_begun_invocation {work : Invocation}
    (begun : bridge.react request = .begun (.invocation work) after) :
    ∃ object method received, bridge.store.heap.find? work.receiver = some object ∧
      method ∈ object.type.methods ∧ work.body = method.body object.state received := by
  cases request with
  | invoke token name arguments =>
      obtain ⟨object, _, resolved, prepared, _, same, _⟩ := react_invoke_eq_begun_iff.mp begun
      cases same
      obtain ⟨method, received, found, _, rfl⟩ := prepareInvocation_eq_ok_iff.mp prepared
      have declared := (TypeDescriptor.of_findMethod? found).1
      exact ⟨object, method, received, find?_of_resolve resolved, declared, rfl⟩
  | create typeName arguments mode => cases begins_of_react begun
  | destroy token => cases begins_of_react begun
  | collect => cases begins_of_react begun

/-- What is found after a constructor ended is its object, which was not there before,
or was there before. -/
theorem content?_of_finishConstruction {work : Construction} {mode : HandleMode}
    {made : ObjectState} {id : ObjectId} {content : TypeDescriptor × ObjectState}
    (coherent : bridge.store.Coherent)
    (found : (bridge.finishConstruction work mode (.ok made)).2.2.store.heap.content? id =
      some content) :
    (bridge.store.heap.content? id = none ∧ content = (work.type, made)) ∨
      bridge.store.heap.content? id = some content := by
  rcases finishes : bridge.finishConstruction work mode (.ok made) with ⟨outcome, effect, after⟩
  rw [finishes] at found
  obtain ⟨object, allocated, allocates, allocatedFound⟩ : ∃ object allocated,
      bridge.store.allocate work.type made = (object, allocated) ∧
        allocated.heap.content? id = some content := by
    cases finishes_of_finishConstruction finishes with
    | issued allocates registered =>
        exact ⟨_, _, allocates, (Store.content?_register registered).symm.trans found⟩
    | unissued allocates registered => exact ⟨_, _, allocates, found⟩
  rcases coherent.content?_of_allocate allocates allocatedFound with ⟨rfl, contentEq⟩ | before
  · obtain ⟨_, _, _, idEq, _, _⟩ := Store.exists_of_allocate allocates
    refine .inl ⟨?_, contentEq⟩
    rw [idEq, Heap.content?, coherent.counts.find?_fresh, Option.map_none]
  · exact .inr before

end Bridge

/-! ## Contents after a step -/

namespace Machine

variable {machine after first last : Machine} {effect : Effect} {id : ObjectId}
  {type : TypeDescriptor} {state : ObjectState}

/-- The type and the state of an object in memory. -/
def content? (machine : Machine) (id : ObjectId) : Option (TypeDescriptor × ObjectState) :=
  machine.bridge.store.heap.content? id

/-- Where the contents of an object after a step come from: it had them before, its
method in progress wrote the state, or a constructor made it. -/
inductive Origin (machine : Machine) (id : ObjectId) (type : TypeDescriptor)
    (state : ObjectState) : Prop
  | kept : machine.content? id = some (type, state) → Origin machine id type state
  | written {work : Bridge.Invocation} {frames : List Frame}
      {rest : Program ObjectState (Option Value)} {earlier : ObjectState} :
      machine.frames = .invocation work :: frames → work.receiver = id →
      work.body = .write state rest → machine.content? id = some (type, earlier) →
      Origin machine id type state
  | made {work : Bridge.Construction} {mode : HandleMode} {frames : List Frame} :
      machine.frames = .construction work mode :: frames → work.type = type →
      work.body = .done state → machine.content? id = none → Origin machine id type state

private theorem origin_of_advanced {bridge middle : Bridge} {frames : List Frame}
    {frame next : Frame} (advanced : frame.advance? bridge = some (next, middle))
    (found : middle.store.heap.content? id = some (type, state)) :
    Origin ⟨bridge, frame :: frames⟩ id type state := by
  cases frame with
  | construction work mode =>
      obtain ⟨body, bodyAdvanced, _⟩ := Frame.advance?_construction_eq_some_iff.mp advanced
      rcases Program.store_of_advance? bodyAdvanced with ⟨written, _⟩ | storeEq
      · exact written.elim
      · rw [storeEq] at found
        exact .kept found
  | invocation work =>
      obtain ⟨body, bodyAdvanced, _⟩ := Frame.advance?_invocation_eq_some_iff.mp advanced
      rcases Program.store_of_advance? bodyAdvanced with ⟨written, bodyEq, rfl⟩ | storeEq
      · rcases Heap.content?_of_setState found with ⟨rfl, rfl, earlier, before⟩ | before
        · exact .written rfl rfl bodyEq before
        · exact .kept before
      · rw [storeEq] at found
        exact .kept found

private theorem origin_of_ended {bridge middle : Bridge} {frames : List Frame} {frame : Frame}
    {answer : Answer} (coherent : bridge.store.Coherent)
    (ended : frame.finish? bridge = some (answer, effect, middle))
    (found : middle.store.heap.content? id = some (type, state)) :
    Origin ⟨bridge, frame :: frames⟩ id type state := by
  cases frame with
  | construction work mode =>
      simp only [Frame.finish?, Option.map_eq_some_iff] at ended
      obtain ⟨result, bodyEnded, finishes⟩ := ended
      cases finishes
      cases result with
      | error raised => exact .kept found
      | ok made =>
          have bodyEq := Program.eq_done_of_immediate? bodyEnded
          rcases Bridge.content?_of_finishConstruction coherent found with
            ⟨absent, contentEq⟩ | before
          · cases contentEq
            exact .made rfl rfl bodyEq absent
          · exact .kept before
  | invocation work =>
      simp only [Frame.finish?, Option.map_eq_some_iff] at ended
      obtain ⟨result, _, finishes⟩ := ended
      cases finishes
      exact .kept ((coherent.content?_leave id).symm.trans found)

/-- Only a method on the object writes its state, and only a constructor makes it. -/
theorem Step.origin (step : Step machine effect after) (coherent : machine.bridge.store.Coherent)
    (found : after.content? id = some (type, state)) : machine.Origin id type state := by
  cases step with
  | answered asks answered =>
      cases Bridge.answers_of_react answered with
      | unknown | unprepared | unresolved | undispatched | unreleased => exact .kept found
      | released released => exact .kept (coherent.content?_of_release released found)
      | collected => exact .kept (coherent.content?_of_collect found)
  | begun asks begun =>
      cases Bridge.begins_of_react begun with
      | construction => exact .kept found
      | invocation => exact .kept (Heap.content?_addReference.symm.trans found)
  | advanced advanced => exact origin_of_advanced advanced found
  | ended ended => exact origin_of_ended coherent ended found
  | outside storeEq =>
      rw [content?, storeEq] at found
      exact .kept found

/-- Every object that the heap refers to has contents. -/
theorem exists_content?_of_mem (coherent : machine.bridge.store.Coherent)
    (member : id ∈ machine.bridge.store.heap.objects) :
    ∃ type state, machine.content? id = some (type, state) := by
  have alive := (coherent.counts.isAlive_iff id).mpr member
  obtain ⟨object, found⟩ := Option.isSome_iff_exists.mp alive
  exact ⟨object.type, object.state, by rw [content?, Heap.content?, found, Option.map_some]⟩

/-- An object that stays in the heap keeps its type. -/
theorem Step.exists_content? (step : Step machine effect after)
    (coherent : machine.bridge.store.Coherent) {earlier : ObjectState}
    (before : machine.content? id = some (type, earlier))
    (stays : id ∈ after.bridge.store.heap.objects) :
    ∃ later, after.content? id = some (type, later) := by
  obtain ⟨laterType, later, found⟩ := exists_content?_of_mem (step.change.coherent coherent) stays
  have typeEq : laterType = type := by
    cases step.origin coherent found with
    | kept same | written _ _ _ same =>
        exact congrArg Prod.fst (Option.some.inj (same.symm.trans before))
    | made _ _ _ absent =>
        rw [absent] at before
        contradiction
  exact ⟨later, typeEq ▸ found⟩

end Machine

/-! ## The invariant -/

variable {holds : TypeDescriptor → Prop} {admits : TypeDescriptor → ObjectState → Prop}

/-- What a body in progress will make or write is admitted.  The receiver of a method is
in memory. -/
def Frame.Upholds (holds : TypeDescriptor → Prop) (admits : TypeDescriptor → ObjectState → Prop)
    (machine : Machine) : Frame → Prop
  | construction work _ =>
      holds work.type ∧ work.body.Keeps (fun _ => True) (admits work.type)
  | invocation work => ∃ type state, machine.content? work.receiver = some (type, state) ∧
      work.body.Keeps (admits type) fun _ => True

namespace Frame.Upholds

variable {frame next : Frame} {machine after : Machine}

theorem resume (upholds : frame.Upholds holds admits machine) (answer : Answer) :
    (frame.resume answer).Upholds holds admits machine := by
  cases frame with
  | construction work mode => exact ⟨upholds.1, upholds.2.resume answer⟩
  | invocation work =>
      obtain ⟨type, state, found, keeps⟩ := upholds
      exact ⟨type, state, found, keeps.resume answer⟩

theorem advance? {bridge middle : Bridge} (upholds : frame.Upholds holds admits machine)
    (advanced : frame.advance? bridge = some (next, middle)) :
    next.Upholds holds admits machine := by
  cases frame with
  | construction work mode =>
      obtain ⟨body, bodyAdvanced, rfl⟩ := Frame.advance?_construction_eq_some_iff.mp advanced
      exact ⟨upholds.1, upholds.2.advance? bodyAdvanced⟩
  | invocation work =>
      obtain ⟨body, bodyAdvanced, rfl⟩ := Frame.advance?_invocation_eq_some_iff.mp advanced
      obtain ⟨type, state, found, keeps⟩ := upholds
      exact ⟨type, state, found, keeps.advance? bodyAdvanced⟩

/-- What a body will write stays admitted as long as its receiver keeps its type. -/
theorem of_content? (upholds : frame.Upholds holds admits machine)
    (keepsType : ∀ id, frame.receiver? = some id → ∀ type earlier,
      machine.content? id = some (type, earlier) →
      ∃ later, after.content? id = some (type, later)) :
    frame.Upholds holds admits after := by
  cases frame with
  | construction work mode => exact upholds
  | invocation work =>
      obtain ⟨type, state, found, keeps⟩ := upholds
      obtain ⟨later, stillFound⟩ := keepsType work.receiver rfl type state found
      exact ⟨type, later, stillFound, keeps⟩

end Frame.Upholds

namespace Machine

variable {machine after first last : Machine} {effect : Effect}

/-- Every object is of a type that `holds` and in a state that its type admits, and the
bodies in progress will not change that. -/
structure Upholds (holds : TypeDescriptor → Prop) (admits : TypeDescriptor → ObjectState → Prop)
    (machine : Machine) : Prop where
  coherent : machine.bridge.store.Coherent
  running_eq : machine.bridge.store.running = receivers machine.frames
  contents : ∀ id type state, machine.content? id = some (type, state) →
    holds type ∧ admits type state
  frames : ∀ frame ∈ machine.frames, frame.Upholds holds admits machine

theorem upholds_start (options : BridgeOptions) (registry : TypeRegistry) :
    (start options registry).Upholds holds admits where
  coherent := Store.coherent_empty options.gcThreshold
  running_eq := rfl
  contents _ _ _ found := by cases found
  frames _ member := absurd member List.not_mem_nil

/-- The receivers of the bodies in progress are in the heap. -/
theorem mem_objects_of_receiver (coherent : machine.bridge.store.Coherent)
    (runningEq : machine.bridge.store.running = receivers machine.frames) {frame : Frame}
    (member : frame ∈ machine.frames) {id : ObjectId} (receiverEq : frame.receiver? = some id) :
    id ∈ machine.bridge.store.heap.objects := by
  have running : id ∈ machine.bridge.store.running := by
    rw [runningEq]
    exact List.mem_filterMap.mpr ⟨frame, member, receiverEq⟩
  exact coherent.counts.mem_of_outside id (coherent.outside_pos_iff.mpr (.inr (.inl running)))

private theorem upholds_of_mem_resume {answer : Answer} {frames : List Frame}
    (upholds : ∀ frame ∈ frames, frame.Upholds holds admits machine) {frame : Frame}
    (member : frame ∈ resume answer frames) : frame.Upholds holds admits machine := by
  cases frames with
  | nil => exact absurd member List.not_mem_nil
  | cons innermost rest =>
      rcases List.mem_cons.mp member with rfl | outer
      · exact (upholds innermost List.mem_cons_self).resume answer
      · exact upholds frame (List.mem_cons_of_mem innermost outer)

section Step

variable (closed : ∀ type, holds type → type.Upholds (admits type))

include closed

private theorem upholds_of_begun {bridge middle : Bridge} {frames : List Frame}
    {request : Request} {frame : Frame} (begun : bridge.react request = .begun frame middle)
    (finds : bridge.registry.Finds holds) (upholds : Upholds holds admits ⟨bridge, frames⟩) :
    frame.Upholds holds admits ⟨bridge, frames⟩ := by
  cases frame with
  | construction work mode =>
      obtain ⟨name, constructor, received, found, declared, bodyEq⟩ :=
        Bridge.exists_of_begun_construction begun
      have typeHolds := finds name work.type found
      refine ⟨typeHolds, ?_⟩
      rw [bodyEq]
      exact (closed work.type typeHolds).constructed constructor declared received
  | invocation work =>
      obtain ⟨object, method, received, found, declared, bodyEq⟩ :=
        Bridge.exists_of_begun_invocation begun
      have contentEq : content? ⟨bridge, frames⟩ work.receiver =
          some (object.type, object.state) := by
        rw [content?, Heap.content?, found, Option.map_some]
      obtain ⟨typeHolds, admitted⟩ := upholds.contents _ _ _ contentEq
      refine ⟨object.type, object.state, contentEq, ?_⟩
      rw [bodyEq]
      exact (closed object.type typeHolds).called method declared object.state received admitted

/-- Before a step writes anything, the bodies after it uphold what those before it did. -/
private theorem Step.frames_uphold (step : Step machine effect after)
    (finds : machine.bridge.registry.Finds holds) (upholds : machine.Upholds holds admits)
    {frame : Frame} (member : frame ∈ after.frames) : frame.Upholds holds admits machine := by
  cases step with
  | answered asks answered => exact upholds_of_mem_resume upholds.frames member
  | begun asks begun =>
      rcases List.mem_cons.mp member with rfl | outer
      · exact upholds_of_begun closed begun finds upholds
      · exact upholds.frames frame outer
  | advanced advanced =>
      rcases List.mem_cons.mp member with rfl | outer
      · exact (upholds.frames _ List.mem_cons_self).advance? advanced
      · exact upholds.frames frame (List.mem_cons_of_mem _ outer)
  | ended ended =>
      have outer := fun frame outer => upholds.frames frame (List.mem_cons_of_mem _ outer)
      exact upholds_of_mem_resume outer member
  | outside storeEq => exact absurd member List.not_mem_nil

theorem Step.upholds (step : Step machine effect after)
    (finds : machine.bridge.registry.Finds holds) (upholds : machine.Upholds holds admits) :
    after.Upholds holds admits where
  coherent := step.change.coherent upholds.coherent
  running_eq := step.running_eq upholds.running_eq
  contents id type state found := by
    cases step.origin upholds.coherent found with
    | kept before => exact upholds.contents id type state before
    | @written work frames rest earlier framesEq receiverEq bodyEq before =>
        have inProgress : Frame.invocation work ∈ machine.frames := by
          rw [framesEq]
          exact List.mem_cons_self
        obtain ⟨ownType, _, ownFound, keeps⟩ := upholds.frames _ inProgress
        rw [receiverEq, before] at ownFound
        cases ownFound
        rw [bodyEq] at keeps
        exact ⟨(upholds.contents id type earlier before).1, keeps.1⟩
    | @made work mode frames framesEq typeEq bodyEq absent =>
        have inProgress : Frame.construction work mode ∈ machine.frames := by
          rw [framesEq]
          exact List.mem_cons_self
        obtain ⟨typeHolds, keeps⟩ := upholds.frames _ inProgress
        rw [bodyEq, typeEq] at keeps
        exact ⟨typeEq ▸ typeHolds, keeps⟩
  frames frame member := by
    apply (step.frames_uphold closed finds upholds member).of_content?
    intro id receiverEq type earlier before
    apply step.exists_content? upholds.coherent before
    exact mem_objects_of_receiver (step.change.coherent upholds.coherent)
      (step.running_eq upholds.running_eq) member receiverEq

end Step

/-! ## Runs -/

/-- What a host does with a machine that knows only types that `holds`: it takes the steps
of the machine, keeps objects that its tokens lead to, and gives them up. -/
inductive Runs (holds : TypeDescriptor → Prop) (first : Machine) : Machine → Prop
  | refl : Runs holds first first
  | step {middle last : Machine} {effect : Effect} :
      Runs holds first middle → middle.bridge.registry.Finds holds →
      Step middle effect last → Runs holds first last
  | kept {bridge : Bridge} {frames : List Frame} {token : Token} {object : HeapObject} :
      Runs holds first ⟨bridge, frames⟩ → bridge.resolve token = .ok object →
      Runs holds first ⟨{ bridge with store := bridge.store.keep object.id }, frames⟩
  | gaveUp {bridge : Bridge} {frames : List Frame} (id : ObjectId) :
      Runs holds first ⟨bridge, frames⟩ →
      Runs holds first ⟨{ bridge with store := bridge.store.giveUp id }, frames⟩

/-- The machine goes on by itself as long as its registry finds types that `holds`. -/
theorem runs_proceed (asked : Request) (steps : Nat) (machine : Machine)
    (finds : ∀ taken < steps, (proceed asked taken machine).2.bridge.registry.Finds holds) :
    Runs holds machine (proceed asked steps machine).2 := by
  induction steps with
  | zero => exact .refl
  | succ steps ih =>
      have earlier := ih fun taken before => finds taken (Nat.lt_succ_of_lt before)
      simp only [proceed]
      split
      · rename_i next
        exact earlier.step (finds steps (Nat.lt_succ_self steps)) (step_of_next? next)
      · exact earlier

private theorem Upholds.keep {bridge : Bridge} {frames : List Frame} {id : ObjectId}
    (upholds : Upholds holds admits ⟨bridge, frames⟩) (member : id ∈ bridge.store.heap.objects) :
    Upholds holds admits ⟨{ bridge with store := bridge.store.keep id }, frames⟩ where
  coherent := upholds.coherent.keep member
  running_eq := upholds.running_eq
  contents _ _ _ found := upholds.contents _ _ _ (Store.content?_keep.symm.trans found)
  frames frame inProgress := by
    apply (upholds.frames frame inProgress).of_content?
    intro _ _ _ earlier before
    exact ⟨earlier, Store.content?_keep.trans before⟩

private theorem Upholds.giveUp {bridge : Bridge} {frames : List Frame} (id : ObjectId)
    (upholds : Upholds holds admits ⟨bridge, frames⟩) :
    Upholds holds admits ⟨{ bridge with store := bridge.store.giveUp id }, frames⟩ := by
  have coherent := upholds.coherent.giveUp id
  have runningEq : (bridge.store.giveUp id).running = receivers frames := by
    rw [Store.giveUp]
    split <;> exact upholds.running_eq
  refine ⟨coherent, runningEq, ?_, ?_⟩
  · intro other type state found
    exact upholds.contents other type state (upholds.coherent.content?_of_giveUp found)
  · intro frame inProgress
    apply (upholds.frames frame inProgress).of_content?
    intro receiver receiverEq type earlier before
    obtain ⟨laterType, later, found⟩ := exists_content?_of_mem coherent
      (mem_objects_of_receiver coherent runningEq inProgress receiverEq)
    have same := (upholds.coherent.content?_of_giveUp found).symm.trans before
    have typeEq : laterType = type := congrArg Prod.fst (Option.some.inj same)
    exact ⟨later, typeEq ▸ found⟩

/-- What the constructors of all known types establish and their methods keep holds of
every object throughout a run. -/
theorem Runs.upholds (runs : Runs holds first last)
    (closed : ∀ type, holds type → type.Upholds (admits type))
    (upholds : first.Upholds holds admits) : last.Upholds holds admits := by
  induction runs with
  | refl => exact upholds
  | step _ finds step ih => exact step.upholds closed finds ih
  | kept _ resolved ih =>
      exact ih.keep (ih.coherent.mem_of_resolveId (Bridge.resolveId_of_resolve resolved))
  | gaveUp id _ ih => exact ih.giveUp id

end Machine

end ObjectBridge
