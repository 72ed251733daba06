import ObjectBridge.Proofs.Bridge.Reactions
import ObjectBridge.Proofs.Bridge.Runs
import ObjectBridge.Proofs.Reflect.Selection

/-!
# Bodies see what they declare

A body reads its arguments by position and trusts their kinds.  It may: whatever
asks for it, the host or another body, a body begins with one argument for each of
its parameters, each passed for its own parameter.  A constructor is only selected
if its arguments can be passed.  A method may turn out not to accept an argument,
and then the call says which one and why, and no body begins.
-/

namespace ObjectBridge

namespace Bridge

variable {type : TypeDescriptor} {object : HeapObject} {method : String}
  {arguments : List Value} {cause : DispatchError}

/-! ## Preparation -/

/-- A construction fails to be prepared only if no constructor is selected. -/
theorem prepareConstruction_eq_error_iff :
    prepareConstruction type arguments = .error cause ↔
      type.selectConstructor arguments = .error cause := by
  rw [prepareConstruction]
  cases selected : type.selectConstructor arguments with
  | error cause => simp [bind, Except.bind]
  | ok constructor =>
      obtain ⟨_, binds⟩ := TypeDescriptor.exists_bind_of_selectConstructor selected
      obtain ⟨received, bound, _⟩ := binds (type.constructorSignature constructor)
      simp [bind, Except.bind, bound, pure, Except.pure]

/-- A call is mismatched exactly at the first argument that the method may not be
passed. -/
theorem prepareInvocation_eq_argumentMismatch_iff {target : String} {position : Nat}
    {expected got : Kind} :
    prepareInvocation object method arguments =
        .error (.argumentMismatch target position expected got) ↔
      ∃ info, object.type.findMethod? method arguments.length = some info ∧
        target = object.type.methodSignature info ∧
        FirstMismatch info.parameters (arguments.map Value.kind) position expected got := by
  rw [prepareInvocation]
  cases object.type.findMethod? method arguments.length with
  | none => simp
  | some info =>
      simp only [Option.some.injEq, exists_eq_left']
      rw [← bindArguments_eq_argumentMismatch_iff]
      cases bindArguments (object.type.methodSignature info) info.parameters arguments with
      | error cause => simp [bind, Except.bind]
      | ok received => simp [bind, Except.bind, pure, Except.pure]

/-! ## Bodies -/

/-- What a creation comes to: it finds no type, it finds no constructor for its
arguments, or it runs the one that it selects on the arguments as they are passed. -/
inductive Creation (services : Services) (bridge : Bridge) (typeName : String)
    (arguments : List Value) (mode : HandleMode) : Prop
  | unknown : bridge.registry.findType? typeName = none →
      createWith services typeName arguments mode bridge =
        .ok (.ok none, bridge.tell (.typeNotFound typeName)) →
      Creation services bridge typeName arguments mode
  | refused {type : TypeDescriptor} {cause : DispatchError} :
      bridge.registry.findType? typeName = some type →
      type.selectConstructor arguments = .error cause →
      createWith services typeName arguments mode bridge =
        .ok (.error (.dispatch cause), bridge) →
      Creation services bridge typeName arguments mode
  | runs {type : TypeDescriptor} {constructor : ConstructorInfo} {received : List Value} :
      bridge.registry.findType? typeName = some type →
      type.selectConstructor arguments = .ok constructor →
      constructor ∈ type.constructors →
      Passed constructor.parameters arguments received →
      createWith services typeName arguments mode bridge =
        runConstruction services
          ⟨type, type.constructorSignature constructor, constructor.body received⟩ mode bridge →
      Creation services bridge typeName arguments mode

/-- What a call comes to: it finds no object, it finds no method, it has an argument that
the method may not be passed, or it runs the method on its arguments as they are
passed. -/
inductive Call (services : Services) (bridge : Bridge) (token : Token) (method : String)
    (arguments : List Value) : Prop
  | unresolved {error : BridgeError} :
      bridge.resolve token = .error error →
      invokeWith services token method arguments bridge = .ok (.error error, bridge) →
      Call services bridge token method arguments
  | missing {object : HeapObject} :
      bridge.resolve token = .ok object →
      object.type.findMethod? method arguments.length = none →
      invokeWith services token method arguments bridge =
        .ok (.error (.dispatch
          (.missingMethod object.type.name method arguments.length)), bridge) →
      Call services bridge token method arguments
  | mismatched {object : HeapObject} {info : MethodInfo} {position : Nat} {expected got : Kind} :
      bridge.resolve token = .ok object →
      object.type.findMethod? method arguments.length = some info →
      FirstMismatch info.parameters (arguments.map Value.kind) position expected got →
      invokeWith services token method arguments bridge =
        .ok (.error (.dispatch (.argumentMismatch (object.type.methodSignature info)
          position expected got)), bridge) →
      Call services bridge token method arguments
  | runs {object : HeapObject} {info : MethodInfo} {received : List Value} :
      bridge.resolve token = .ok object →
      object.type.findMethod? method arguments.length = some info →
      Passed info.parameters arguments received →
      invokeWith services token method arguments bridge =
        runInvocation services
          ⟨object.id, object.type.methodSignature info, info.body object.state received⟩
          bridge →
      Call services bridge token method arguments

variable {services : Services} {bridge after : Bridge}

theorem creation (services : Services) (bridge : Bridge) (typeName : String)
    (arguments : List Value) (mode : HandleMode) :
    Creation services bridge typeName arguments mode := by
  cases found : bridge.registry.findType? typeName with
  | none => exact .unknown found (by rw [createWith, Run.get_bind, found]; rfl)
  | some type =>
      cases prepared : prepareConstruction type arguments with
      | error cause =>
          refine .refused found (prepareConstruction_eq_error_iff.mp prepared) ?_
          rw [createWith, Run.get_bind, found]
          simp only [prepared]
          rfl
      | ok work =>
          obtain ⟨constructor, received, selected, bound, rfl⟩ :=
            prepareConstruction_eq_ok_iff.mp prepared
          obtain ⟨member, binds⟩ := TypeDescriptor.exists_bind_of_selectConstructor selected
          obtain ⟨other, otherBound, passed⟩ := binds (type.constructorSignature constructor)
          rw [bound] at otherBound
          cases otherBound
          refine .runs found selected member passed ?_
          rw [createWith, Run.get_bind, found]
          simp only [prepared]

theorem call (services : Services) (bridge : Bridge) (token : Token) (method : String)
    (arguments : List Value) : Call services bridge token method arguments := by
  cases resolved : bridge.resolve token with
  | error error =>
      refine .unresolved resolved ?_
      rw [invokeWith, Run.get_bind, resolved]
      rfl
  | ok object =>
      cases found : object.type.findMethod? method arguments.length with
      | none =>
          refine .missing resolved found ?_
          rw [invokeWith, Run.get_bind, resolved]
          simp only [prepareInvocation, found]
          rfl
      | some info =>
          have lengthEq := (TypeDescriptor.of_findMethod? found).2.2.symm
          cases bound : bindArguments (object.type.methodSignature info) info.parameters
            arguments with
          | error cause =>
              obtain ⟨position, expected, got, mismatch, rfl⟩ := bindFrom_eq_error_iff.mp bound
              rw [Nat.zero_add] at bound
              refine .mismatched resolved found mismatch ?_
              rw [invokeWith, Run.get_bind, resolved]
              simp only [prepareInvocation, found, bound]
              rfl
          | ok received =>
              refine .runs resolved found (passed_of_bindFrom lengthEq bound) ?_
              rw [invokeWith, Run.get_bind, resolved]
              simp only [prepareInvocation, found, bound]
              rfl

/-- No creation fails for an argument that its constructor may not be passed. -/
theorem createWith_ne_argumentMismatch {typeName : String} {mode : HandleMode} {target : String}
    {position : Nat} {expected got : Kind} :
    createWith services typeName arguments mode bridge ≠
      .ok (.error (.dispatch (.argumentMismatch target position expected got)), after) := by
  intro created
  cases creation services bridge typeName arguments mode with
  | unknown _ outcome =>
      rw [outcome] at created
      cases created
  | refused _ selected outcome =>
      rw [outcome] at created
      cases created
      exact TypeDescriptor.selectConstructor_ne_argumentMismatch selected
  | runs _ _ _ _ runs =>
      rw [runs, runConstruction_eq_ok_iff] at created
      obtain ⟨result, ran, effect, _, finishes⟩ := created
      cases result with
      | error raised => cases finishes
      | ok state =>
          simp only [finishConstruction, register] at finishes
          split at finishes <;> cases finishes

/-- A call fails for an argument that its method may not be passed exactly if there is
one, and then for the first. -/
theorem invokeWith_eq_argumentMismatch_iff {token : Token} {target : String} {position : Nat}
    {expected got : Kind} :
    invokeWith services token method arguments bridge =
        .ok (.error (.dispatch (.argumentMismatch target position expected got)), after) ↔
      after = bridge ∧ ∃ object info, bridge.resolve token = .ok object ∧
        object.type.findMethod? method arguments.length = some info ∧
        target = object.type.methodSignature info ∧
        FirstMismatch info.parameters (arguments.map Value.kind) position expected got := by
  have mismatches : (∃ object info, bridge.resolve token = .ok object ∧
      object.type.findMethod? method arguments.length = some info ∧
      target = object.type.methodSignature info ∧
      FirstMismatch info.parameters (arguments.map Value.kind) position expected got) ↔
        ∃ object, bridge.resolve token = .ok object ∧
          prepareInvocation object method arguments =
            .error (.argumentMismatch target position expected got) := by
    simp only [prepareInvocation_eq_argumentMismatch_iff, exists_and_left]
  rw [mismatches, invokeWith, Run.get_bind]
  cases resolved : bridge.resolve token with
  | error error =>
      obtain ⟨cause, rfl⟩ := exists_handle_of_resolve resolved
      constructor
      · intro refused
        cases refused
      · rintro ⟨_, _, absurdity, _⟩
        contradiction
  | ok object =>
      simp only [Except.ok.injEq, exists_eq_left']
      cases prepared : prepareInvocation object method arguments with
      | error cause =>
          constructor
          · intro refused
            cases refused
            exact ⟨rfl, rfl⟩
          · rintro ⟨rfl, causeEq⟩
            cases causeEq
            rfl
      | ok work =>
          constructor
          · intro invoked
            obtain ⟨_, result, ran, _, finishes⟩ := runInvocation_eq_ok_iff.mp invoked
            cases result <;> cases finishes
          · rintro ⟨_, absurdity⟩
            contradiction

/-- Every body begins with its arguments as they are passed for its parameters: one for
each, in order and of the declared kind.  A constructor that is selected binds, so no
creation fails for an argument.  A call fails for an argument exactly if one does not
widen, and names the first that does not. -/
theorem bodies_receive_declared_arguments (services : Services) (arguments : List Value) :
    (∀ (type : TypeDescriptor) (constructor : ConstructorInfo),
      type.selectConstructor arguments = .ok constructor →
        ∃ received, bindArguments (type.constructorSignature constructor)
          constructor.parameters arguments = .ok received) ∧
    (∀ bridge typeName mode, Creation services bridge typeName arguments mode) ∧
    (∀ bridge typeName mode target position expected got after,
      createWith services typeName arguments mode bridge ≠
        .ok (.error (.dispatch (.argumentMismatch target position expected got)), after)) ∧
    (∀ bridge token method, Call services bridge token method arguments) ∧
    (∀ bridge token method target position expected got after,
      invokeWith services token method arguments bridge =
          .ok (.error (.dispatch (.argumentMismatch target position expected got)), after) ↔
        after = bridge ∧ ∃ object info, bridge.resolve token = .ok object ∧
          object.type.findMethod? method arguments.length = some info ∧
          target = object.type.methodSignature info ∧
          FirstMismatch info.parameters (arguments.map Value.kind) position expected got) ∧
    ∀ (info : MethodInfo),
      (∃ position expected got,
        FirstMismatch info.parameters (arguments.map Value.kind) position expected got) ↔
      ∃ (position : Nat) (expected got : Kind), info.parameters[position]? = some expected ∧
        (arguments.map Value.kind)[position]? = some got ∧ got.widensTo expected = false := by
  refine ⟨?_, ?_, ?_, ?_, ?_, ?_⟩
  · intro type constructor selected
    obtain ⟨_, binds⟩ := TypeDescriptor.exists_bind_of_selectConstructor selected
    obtain ⟨received, bound, _⟩ := binds (type.constructorSignature constructor)
    exact ⟨received, bound⟩
  · exact fun bridge typeName mode => creation services bridge typeName arguments mode
  · exact fun _ _ _ _ _ _ _ _ => createWith_ne_argumentMismatch
  · exact fun bridge token method => call services bridge token method arguments
  · exact fun _ _ _ _ _ _ _ _ => invokeWith_eq_argumentMismatch_iff
  · exact fun _ => exists_firstMismatch_iff

/-- Setting a gauge to a number takes how exact the number is. -/
def gaugeSet : MethodInfo := ⟨"Set", [.double, .byte], fun _ _ => .done none⟩

/-- A type with one constructor and one method of two parameters each. -/
def gauge : TypeDescriptor where
  name := "Gauge"
  constructors := [⟨[.long, .bool], fun _ => .done ⟨"Gauge", []⟩⟩]
  methods := [gaugeSet]

/-- The constructor of a gauge may be passed a whole number and a truth; its method may
not be passed the latter. -/
theorem bodies_receive_declared_arguments_gauge :
    let arguments : List Value := [.int 3, .bool true]
    let bridge := (Machine.proceed (.create "Gauge" arguments .owning) 2
      (.start .defaults ⟨[], [("Gauge", gauge)]⟩)).2.bridge
    (∃ received, bindArguments (signature "Gauge..ctor" [.long, .bool]) [.long, .bool] arguments =
      .ok received) ∧
    invokeWith (Bridge.services 1) (.ofSlot 0 0) "Set" arguments bridge =
      .ok (.error (.dispatch (.argumentMismatch (gauge.methodSignature gaugeSet) 1 .byte .bool)),
        bridge) := by
  intro arguments bridge
  obtain ⟨binds, _, _, _, mismatched, _⟩ :=
    bodies_receive_declared_arguments (Bridge.services 1) arguments
  have first : FirstMismatch [.double, .byte] (arguments.map Value.kind) 1 .byte .bool :=
    firstMismatch_cons_iff.mpr (.inr ⟨rfl, 0, rfl,
      firstMismatch_cons_iff.mpr (.inl ⟨rfl, rfl, rfl, rfl⟩)⟩)
  have resolved : bridge.resolve (.ofSlot 0 0) = .ok ⟨⟨1⟩, gauge, ⟨"Gauge", []⟩, 2⟩ := rfl
  have found : gauge.findMethod? "Set" arguments.length = some gaugeSet := rfl
  refine ⟨binds gauge ⟨[.long, .bool], fun _ => .done ⟨"Gauge", []⟩⟩ rfl, ?_⟩
  exact (mismatched bridge _ _ _ _ _ _ bridge).mpr
    ⟨rfl, _, gaugeSet, resolved, found, rfl, first⟩

end Bridge

end ObjectBridge
