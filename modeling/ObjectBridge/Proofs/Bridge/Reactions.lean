import ObjectBridge.Proofs.Bridge.Machine
import ObjectBridge.Proofs.Heap.Coherent

/-!
# Reactions

A bridge that is asked for something answers at once, or begins a body, or finds that
the method would wait for itself.  A body is prepared before it begins: bound to its
receiver and to its arguments as they are passed.  The ways to answer, to begin and to end
a constructor are listed here once, with what each takes, and what holds of every reaction
is proved of the lists.
-/

namespace ObjectBridge.Bridge

variable {bridge after : Bridge} {request : Request} {token : Token} {object : HeapObject}

/-! ## Resolving -/

/-- A token that leads to no object fails as a handle does. -/
theorem exists_handle_of_resolve {error : BridgeError}
    (resolved : bridge.resolve token = .error error) : ∃ cause, error = .handle cause := by
  rw [resolve] at resolved
  cases stored : bridge.store.resolve token with
  | error cause =>
      rw [stored] at resolved
      cases resolved
      exact ⟨cause, rfl⟩
  | ok object =>
      rw [stored] at resolved
      contradiction

theorem resolveId_of_resolve (resolved : bridge.resolve token = .ok object) :
    bridge.store.resolveId token = .ok object.id := by
  rw [resolve] at resolved
  cases stored : bridge.store.resolve token with
  | error cause =>
      rw [stored] at resolved
      contradiction
  | ok found =>
      rw [stored] at resolved
      cases resolved
      exact (Store.resolve_eq_ok_iff.mp stored).1

/-! ## Preparation -/

section Preparation

variable {type : TypeDescriptor} {method : String} {arguments : List Value}

theorem prepareConstruction_eq_ok_iff {work : Construction} :
    prepareConstruction type arguments = .ok work ↔
      ∃ constructor received, type.selectConstructor arguments = .ok constructor ∧
        bindArguments (type.constructorSignature constructor) constructor.parameters arguments =
          .ok received ∧
        work = ⟨type, type.constructorSignature constructor, constructor.body received⟩ := by
  rw [prepareConstruction]
  cases type.selectConstructor arguments with
  | error cause => simp [bind, Except.bind]
  | ok constructor =>
      cases bound : bindArguments (type.constructorSignature constructor)
        constructor.parameters arguments with
      | error cause => simp [bind, Except.bind, bound]
      | ok received => simp [bind, Except.bind, bound, pure, Except.pure, eq_comm]

theorem prepareInvocation_eq_ok_iff {work : Invocation} :
    prepareInvocation object method arguments = .ok work ↔
      ∃ info received, object.type.findMethod? method arguments.length = some info ∧
        bindArguments (object.type.methodSignature info) info.parameters arguments =
          .ok received ∧
        work =
          ⟨object.id, object.type.methodSignature info, info.body object.state received⟩ := by
  rw [prepareInvocation]
  cases object.type.findMethod? method arguments.length with
  | none => simp
  | some info =>
      cases bound : bindArguments (object.type.methodSignature info) info.parameters
        arguments with
      | error cause => simp [bind, Except.bind, bound]
      | ok received => simp [bind, Except.bind, bound, pure, Except.pure, eq_comm]

end Preparation

/-! ## Answers -/

/-- How a bridge answers at once. -/
inductive Answers (bridge : Bridge) : Request → Answer → Effect → Bridge → Prop
  | unknown {typeName : String} {arguments : List Value} {mode : HandleMode} :
      bridge.registry.findType? typeName = none →
      Answers bridge (.create typeName arguments mode) (.created (.ok none)) .quiet
        (bridge.tell (.typeNotFound typeName))
  | unprepared {typeName : String} {arguments : List Value} {mode : HandleMode}
      {cause : DispatchError} :
      Answers bridge (.create typeName arguments mode) (.created (.error (.dispatch cause))) .quiet
        bridge
  | unresolved {token : Token} {method : String} {arguments : List Value} {cause : HandleError} :
      Answers bridge (.invoke token method arguments) (.invoked (.error (.handle cause))) .quiet
        bridge
  | undispatched {token : Token} {method : String} {arguments : List Value}
      {cause : DispatchError} :
      Answers bridge (.invoke token method arguments) (.invoked (.error (.dispatch cause))) .quiet
        bridge
  | released {token : Token} {store : Store} :
      bridge.store.release token = .ok store →
      Answers bridge (.destroy token) (.destroyed (.ok ())) (.released token) { bridge with store }
  | unreleased {token : Token} {cause : HandleError} :
      Answers bridge (.destroy token) (.destroyed (.error (.handle cause))) .quiet bridge
  | collected : Answers bridge .collect (.collected bridge.collect.1) .collected bridge.collect.2

theorem answers_of_react {answer : Answer} {effect : Effect}
    (reacts : bridge.react request = .answered answer effect after) :
    bridge.Answers request answer effect after := by
  cases request with
  | create typeName arguments mode =>
      simp only [react] at reacts
      split at reacts
      · rename_i absent
        cases reacts
        exact .unknown absent
      · split at reacts
        · cases reacts
          exact .unprepared
        · contradiction
  | invoke token method arguments =>
      simp only [react] at reacts
      split at reacts
      · rename_i resolved
        cases reacts
        obtain ⟨cause, rfl⟩ := exists_handle_of_resolve resolved
        exact .unresolved
      · split at reacts
        · cases reacts
          exact .undispatched
        · split at reacts <;> contradiction
  | destroy token =>
      simp only [react] at reacts
      split at reacts
      · rename_i released
        cases reacts
        exact .released released
      · cases reacts
        exact .unreleased
  | collect =>
      cases reacts
      exact .collected

/-! ## Beginnings -/

/-- How a body begins: a constructor as it is, and a method on an object that its token
leads to and that no method is running on. -/
inductive Begins (bridge : Bridge) : Request → Frame → Bridge → Prop
  | construction {typeName : String} {arguments : List Value} {mode : HandleMode}
      {type : TypeDescriptor} {work : Construction} :
      bridge.registry.findType? typeName = some type →
      prepareConstruction type arguments = .ok work →
      Begins bridge (.create typeName arguments mode) (.construction work mode) bridge
  | invocation {token : Token} {method : String} {arguments : List Value} {work : Invocation} :
      bridge.store.resolveId token = .ok work.receiver →
      bridge.store.running.contains work.receiver = false →
      Begins bridge (.invoke token method arguments) (.invocation work)
        (bridge.enter work.receiver)

/-- A creation begins the constructor of a type that is known, once it is prepared. -/
theorem react_create_eq_begun_iff {typeName : String} {arguments : List Value}
    {mode : HandleMode} {frame : Frame} :
    bridge.react (.create typeName arguments mode) = .begun frame after ↔
      ∃ type work, bridge.registry.findType? typeName = some type ∧
        prepareConstruction type arguments = .ok work ∧
        frame = .construction work mode ∧ after = bridge := by
  rw [react]
  cases bridge.registry.findType? typeName with
  | none => simp
  | some type => cases prepared : prepareConstruction type arguments <;> simp [prepared, eq_comm]

/-- A call begins the method of the object that its token leads to, once it is prepared,
unless a method of the object is running. -/
theorem react_invoke_eq_begun_iff {method : String} {arguments : List Value} {frame : Frame} :
    bridge.react (.invoke token method arguments) = .begun frame after ↔
      ∃ object work, bridge.resolve token = .ok object ∧
        prepareInvocation object method arguments = .ok work ∧
        bridge.store.running.contains work.receiver = false ∧
        frame = .invocation work ∧ after = bridge.enter work.receiver := by
  rw [react]
  cases bridge.resolve token with
  | error error => simp
  | ok object =>
      cases prepared : prepareInvocation object method arguments with
      | error cause => simp [prepared]
      | ok work =>
          by_cases running : work.receiver ∈ bridge.store.running <;>
            simp [prepared, running, eq_comm]

theorem begins_of_react {frame : Frame} (reacts : bridge.react request = .begun frame after) :
    bridge.Begins request frame after := by
  cases request with
  | create typeName arguments mode =>
      obtain ⟨type, work, found, prepared, rfl, rfl⟩ := react_create_eq_begun_iff.mp reacts
      exact .construction found prepared
  | invoke token method arguments =>
      obtain ⟨object, work, resolved, prepared, idle, rfl, rfl⟩ :=
        react_invoke_eq_begun_iff.mp reacts
      refine .invocation ?_ idle
      obtain ⟨_, _, _, _, rfl⟩ := prepareInvocation_eq_ok_iff.mp prepared
      exact resolveId_of_resolve resolved
  | destroy token =>
      simp only [react] at reacts
      split at reacts <;> contradiction
  | collect => contradiction

/-! ## Ends -/

/-- How a constructor ends: with a fault, or with an object that gets a handle if there is
room for one. -/
inductive Finishes (bridge : Bridge) (work : Construction) (mode : HandleMode) :
    Except Fault ObjectState → Except BridgeError (Option Token) → Effect → Bridge → Prop
  | raised {raised : Fault} :
      Finishes bridge work mode (.error raised) (.error (.invocation work.target raised)) .quiet
        bridge
  | issued {state : ObjectState} {object : HeapObject} {token : Token} {allocated store : Store} :
      bridge.store.allocate work.type state = (object, allocated) →
      allocated.register object mode = .ok (token, store) →
      Finishes bridge work mode (.ok state) (.ok (some token))
        (.allocated object.id bridge.store.heap.isDue mode (some token)) { bridge with store }
  | unissued {state : ObjectState} {object : HeapObject} {store : Store} {cause : HandleError} :
      bridge.store.allocate work.type state = (object, store) →
      store.register object mode = .error cause →
      Finishes bridge work mode (.ok state) (.error (.handle cause))
        (.allocated object.id bridge.store.heap.isDue mode none) { bridge with store }

theorem finishes_of_finishConstruction {work : Construction} {mode : HandleMode}
    {result : Except Fault ObjectState} {outcome : Except BridgeError (Option Token)}
    {effect : Effect}
    (finishes : bridge.finishConstruction work mode result = (outcome, effect, after)) :
    bridge.Finishes work mode result outcome effect after := by
  cases result with
  | error raised =>
      cases finishes
      exact .raised
  | ok state =>
      rcases allocates : bridge.store.allocate work.type state with ⟨object, allocated⟩
      simp only [finishConstruction, allocate, allocates, register] at finishes
      cases registered : allocated.register object mode with
      | ok issued =>
          simp only [registered] at finishes
          cases finishes
          exact .issued allocates registered
      | error cause =>
          simp only [registered] at finishes
          cases finishes
          exact .unissued allocates registered

end ObjectBridge.Bridge
