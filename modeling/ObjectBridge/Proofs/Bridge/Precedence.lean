import ObjectBridge.Proofs.Bridge.Agreement
import ObjectBridge.Proofs.Bridge.Defects
import ObjectBridge.Proofs.Bridge.Verdicts

/-!
# Which error a native call reports

A native call may have many defects at once.  It fails exactly with the first of those
that preparing it looks for, whatever else is wrong with it, and only if there is none does
a body run.  What the body does is looked at last: a fault that it raises is reported,
too, and so is a full handle table when an object was constructed.
-/

namespace ObjectBridge

namespace Bridge

variable {bridge : Bridge} {memory : Memory} {raw : UInt64} {method : InteropString}
  {buffers : ArgumentBuffers} {info : Option CreateInfo} {error : BridgeError}

/-! ## Methods -/

/-- Run the method of a call, if it is bound. -/
def runCall (services : Services) :
    Except BridgeError Invocation → Run (Except BridgeError (Option Value))
  | .error error => pure (.error error)
  | .ok work => runInvocation services work

theorem invokeWith_eq (services : Services) (bridge : Bridge) (token : Token) (name : String)
    (arguments : List Value) :
    invokeWith services token name arguments bridge =
      runCall services (bridge.bindCall token name arguments) bridge := by
  rw [invokeWith, Run.get_bind, bindCall]
  cases bridge.resolve token with
  | error cause => rfl
  | ok object =>
      simp only [bind, Except.bind]
      cases prepareInvocation object name arguments <;> rfl

/-- The run of the method that a call comes to, if its receiver is not running one
already. -/
structure RunsMethod (services : Services) (bridge : Bridge) (memory : Memory) (raw : UInt64)
    (method : InteropString) (buffers : ArgumentBuffers) (work : Invocation)
    (run : Except Halt (Except Fault (Option Value) × Bridge)) : Prop where
  prepared : bridge.prepareCall memory raw method buffers = .ok work
  idle : bridge.store.running.contains work.receiver = false
  run_eq : work.body.run services (setState work.receiver) (bridge.enter work.receiver) = run

/-- The method raises a fault or panics. -/
def methodRaises (services : Services) (bridge : Bridge) (memory : Memory) (raw : UInt64)
    (method : InteropString) (buffers : ArgumentBuffers) (error : BridgeError) : Prop :=
  ∃ work raised ran,
    bridge.RunsMethod services memory raw method buffers work (.ok (.error raised, ran)) ∧
      error = .invocation work.target raised

/-- The receiver is running a method already, so the call would wait for itself, or the
method does not end. -/
def methodHalts (services : Services) (bridge : Bridge) (memory : Memory) (raw : UInt64)
    (method : InteropString) (buffers : ArgumentBuffers) : Prop :=
  (∃ work, bridge.prepareCall memory raw method buffers = .ok work ∧
    bridge.store.running.contains work.receiver = true) ∨
  ∃ work halt, bridge.RunsMethod services memory raw method buffers work (.error halt)

/-- What a method raises is the error with which its run ends. -/
theorem methodRaises_iff {services : Services} {work : Invocation}
    (prepared : bridge.prepareCall memory raw method buffers = .ok work) :
    bridge.methodRaises services memory raw method buffers error ↔
      ∃ after, runInvocation services work bridge = .ok (.error error, after) := by
  constructor
  · rintro ⟨_, raised, ran, ⟨again, idle, runEq⟩, rfl⟩
    cases prepared.symm.trans again
    exact ⟨ran.leave, runInvocation_eq_ok_iff.mpr ⟨idle, .error raised, ran, runEq, rfl⟩⟩
  · rintro ⟨after, ended⟩
    obtain ⟨idle, result, ran, runEq, finishes⟩ := runInvocation_eq_ok_iff.mp ended
    cases result with
    | error raised =>
        cases finishes
        exact ⟨work, raised, ran, ⟨prepared, idle, runEq⟩, rfl⟩
    | ok result => cases finishes

theorem methodHalts_iff {services : Services} {work : Invocation}
    (prepared : bridge.prepareCall memory raw method buffers = .ok work) :
    bridge.methodHalts services memory raw method buffers ↔
      ∃ halt, runInvocation services work bridge = .error halt := by
  simp only [runInvocation_eq_error_iff]
  constructor
  · rintro (⟨_, again, running⟩ | ⟨_, halt, ⟨again, idle, runEq⟩⟩)
    · cases prepared.symm.trans again
      exact ⟨_, .inl ⟨running, rfl⟩⟩
    · cases prepared.symm.trans again
      exact ⟨halt, .inr ⟨idle, runEq⟩⟩
  · rintro ⟨halt, ⟨running, rfl⟩ | ⟨idle, runEq⟩⟩
    · exact .inl ⟨work, prepared, running⟩
    · exact .inr ⟨work, halt, prepared, idle, runEq⟩

/-! ## Constructors -/

/-- Run the constructor of a request, if it is bound and the type is known. -/
def runRequest (services : Services) :
    Except BridgeError (CreateRequest × Option Construction) →
      Run (Except BridgeError (Option Token))
  | .error error => pure (.error error)
  | .ok (request, none) => do
      modify (·.tell (.typeNotFound request.typeName))
      return .ok none
  | .ok (request, some work) => runConstruction services work request.mode

theorem createWith_eq (services : Services) (bridge : Bridge) (request : CreateRequest) :
    createWith services request.typeName request.arguments request.mode bridge =
      runRequest services (bridge.bindRequest request) bridge := by
  rw [createWith, Run.get_bind, bindRequest]
  cases bridge.registry.findType? request.typeName with
  | none => rfl
  | some type =>
      simp only
      cases prepareConstruction type request.arguments <;> rfl

/-- The run of the constructor that a request asks for, on the bridge as reading the request
leaves it. -/
structure RunsConstructor (services : Services) (bridge : Bridge) (memory : Memory)
    (info : Option CreateInfo) (work : Construction)
    (run : Except Halt (Except Fault ObjectState × Bridge)) : Prop where
  prepared : ∃ request, bridge.prepareRequest memory info = .ok (request, some work)
  run_eq : ∃ read, readRequest memory info bridge = .ok (CreateRequest.read memory info, read) ∧
    work.body.run services (fun state => nomatch state) read = run

/-- The constructor raises a fault or panics. -/
def constructorRaises (services : Services) (bridge : Bridge) (memory : Memory)
    (info : Option CreateInfo) (error : BridgeError) : Prop :=
  ∃ work raised ran, bridge.RunsConstructor services memory info work (.ok (.error raised, ran)) ∧
    error = .invocation work.target raised

/-- The constructor ends, and the handle table has no room for another handle. -/
def handlesExhausted (services : Services) (bridge : Bridge) (memory : Memory)
    (info : Option CreateInfo) (error : BridgeError) : Prop :=
  ∃ work state ran, bridge.RunsConstructor services memory info work (.ok (.ok state, ran)) ∧
    ran.store.handles.free = [] ∧ Token.maxSlots ≤ ran.store.handles.slots.length ∧
    error = .handle (.exhausted ran.store.handles.live)

/-- The constructor does not end. -/
def constructorHalts (services : Services) (bridge : Bridge) (memory : Memory)
    (info : Option CreateInfo) : Prop :=
  ∃ work halt, bridge.RunsConstructor services memory info work (.error halt)

/-- What becomes of the constructor of a request is told by its run. -/
theorem runsConstructor_iff {services : Services} {read : Bridge} {request : CreateRequest}
    {work other : Construction} {run : Except Halt (Except Fault ObjectState × Bridge)}
    (prepared : bridge.prepareRequest memory info = .ok (request, some work))
    (readEq : readRequest memory info bridge = .ok (CreateRequest.read memory info, read)) :
    bridge.RunsConstructor services memory info other run ↔
      other = work ∧ work.body.run services (fun state => nomatch state) read = run := by
  constructor
  · rintro ⟨⟨_, again⟩, _, otherReadEq, runEq⟩
    cases prepared.symm.trans again
    cases readEq.symm.trans otherReadEq
    exact ⟨rfl, runEq⟩
  · rintro ⟨rfl, runEq⟩
    exact ⟨⟨request, prepared⟩, read, readEq, runEq⟩

/-- Issuing a handle fails exactly for want of room. -/
theorem exists_register_error_iff (object : HeapObject) (mode : HandleMode) :
    (∃ after, bridge.register object mode = (.error error, after)) ↔
      bridge.store.handles.free = [] ∧ Token.maxSlots ≤ bridge.store.handles.slots.length ∧
        error = .handle (.exhausted bridge.store.handles.live) := by
  rw [register, Store.register]
  cases registered : bridge.store.handles.register object.id mode with
  | error cause =>
      obtain ⟨free, full, rfl⟩ := HandleTable.register_eq_error_iff.mp registered
      simp [Except.map, free, full, eq_comm]
  | ok issued =>
      constructor
      · rintro ⟨after, refused⟩
        cases refused
      · rintro ⟨free, full, rfl⟩
        cases registered.symm.trans (HandleTable.register_eq_error_iff.mpr ⟨free, full, rfl⟩)

/-- Once the constructor ended, creation fails exactly for want of room. -/
theorem exists_finishConstruction_error_iff (bridge : Bridge) (work : Construction)
    (mode : HandleMode) (state : ObjectState) (error : BridgeError) :
    (∃ effect after, bridge.finishConstruction work mode (.ok state) =
        (.error error, effect, after)) ↔
      bridge.store.handles.free = [] ∧ Token.maxSlots ≤ bridge.store.handles.slots.length ∧
        error = .handle (.exhausted bridge.store.handles.live) := by
  have handlesEq : (bridge.allocate work.type state).2.store.handles = bridge.store.handles := by
    rcases allocates : bridge.store.allocate work.type state with ⟨object, store⟩
    obtain ⟨_, _, _, _, _, rfl⟩ := Store.exists_of_allocate allocates
    simp only [allocate, allocates]
  rw [← handlesEq, ← exists_register_error_iff (bridge.allocate work.type state).1 mode]
  simp [finishConstruction, Prod.ext_iff]

section Construction

variable {services : Services} {read : Bridge} {request : CreateRequest} {work : Construction}

/-- The run of a constructor fails because it raises a fault or for want of room. -/
theorem exists_runConstruction_error_iff
    (prepared : bridge.prepareRequest memory info = .ok (request, some work))
    (readEq : readRequest memory info bridge = .ok (CreateRequest.read memory info, read)) :
    (∃ after, runConstruction services work request.mode read = .ok (.error error, after)) ↔
      FirstOf [bridge.constructorRaises services memory info,
        bridge.handlesExhausted services memory info] error := by
  rw [firstOf_cons_iff, firstOf_singleton_iff]
  simp only [constructorRaises, handlesExhausted, runsConstructor_iff prepared readEq,
    runConstruction_eq_ok_iff]
  cases ran : work.body.run services (fun state => nomatch state) read with
  | error halt => simp
  | ok ended =>
      rcases ended with ⟨raised | state, after⟩
      · simp [finishConstruction, eq_comm]
      · have finishes := after.exists_finishConstruction_error_iff work request.mode state error
        rw [exists_comm] at finishes
        simp [finishes]

/-- A constructor halts exactly if its run does. -/
theorem constructorHalts_iff
    (prepared : bridge.prepareRequest memory info = .ok (request, some work))
    (readEq : readRequest memory info bridge = .ok (CreateRequest.read memory info, read)) :
    bridge.constructorHalts services memory info ↔
      ∃ halt, runConstruction services work request.mode read = .error halt := by
  constructor
  · rintro ⟨_, halt, runs⟩
    obtain ⟨rfl, ran⟩ := (runsConstructor_iff prepared readEq).mp runs
    exact ⟨halt, runConstruction_eq_error_iff.mpr ran⟩
  · rintro ⟨halt, halted⟩
    have ran := runConstruction_eq_error_iff.mp halted
    exact ⟨work, halt, (runsConstructor_iff prepared readEq).mpr ⟨rfl, ran⟩⟩

end Construction

end Bridge

namespace NativeCall

variable {bridge : Bridge} {error : BridgeError}

/-! ## Calls of methods -/

section Invoke

variable {memory : Memory} {raw : UInt64} {method : InteropString} {buffers : ArgumentBuffers}
  {work : Bridge.Invocation} {depth : Nat}

/-- A call of a method runs what it is bound to. -/
theorem attempt_invoke_eq (bridge : Bridge) :
    (invoke memory raw method buffers).attempt (Bridge.services (depth + 1)) bridge =
      (Bridge.runCall (Bridge.services depth) (bridge.prepareCall memory raw method buffers) >>=
        fun outcome => pure (outcome.map fun _ => none)) bridge := by
  rw [Bridge.prepareCall, attempt]
  cases Bridge.readCall memory raw method buffers with
  | error cause => rfl
  | ok read =>
      have invokes := Bridge.invokeWith_eq (Bridge.services depth) bridge read.1 read.2.1 read.2.2
      exact Run.bind_congr invokes _

private theorem keeps_invoke (listener : Option Listener) :
    invoke memory raw method buffers ≠ .setListener listener := by
  intro same
  cases same

/-- A call of a method fails with its first defect, of which a fault that the method
raises is the last. -/
theorem failsWith_invoke_iff (coherent : bridge.store.Coherent) :
    (invoke memory raw method buffers).FailsWith (Bridge.services (depth + 1)) bridge error ↔
      FirstOf (bridge.callDefects memory raw method buffers ++
        [bridge.methodRaises (Bridge.services depth) memory raw method buffers]) error := by
  rw [failsWith_iff (Bridge.services_quiet _) keeps_invoke, attempt_invoke_eq,
    (Bridge.detects_prepareCall coherent memory raw method buffers).append_iff,
    firstOf_singleton_iff]
  cases prepared : bridge.prepareCall memory raw method buffers with
  | error cause =>
      constructor
      · rintro ⟨middle, failed⟩
        cases failed
        exact .inl rfl
      · rintro (same | ⟨⟨_, absurdity⟩, _⟩)
        · cases same
          exact ⟨bridge, rfl⟩
        · cases absurdity
  | ok work =>
      rw [Bridge.methodRaises_iff prepared]
      constructor
      · rintro ⟨middle, attempted⟩
        obtain ⟨outcome, after, ran, answered⟩ := Run.bind_eq_ok_iff.mp attempted
        cases outcome with
        | error raised =>
            cases answered
            exact .inr ⟨⟨work, rfl⟩, _, ran⟩
        | ok result => cases answered
      · rintro (absurdity | ⟨_, after, ran⟩)
        · cases absurdity
        · exact ⟨after, Run.bind_eq_ok_iff.mpr ⟨.error error, after, ran, rfl⟩⟩

theorem halts_invoke_iff :
    (invoke memory raw method buffers).Halts (Bridge.services (depth + 1)) bridge ↔
      bridge.methodHalts (Bridge.services depth) memory raw method buffers := by
  rw [halts_iff (Bridge.services_quiet _) keeps_invoke, attempt_invoke_eq]
  cases prepared : bridge.prepareCall memory raw method buffers with
  | error cause =>
      constructor
      · rintro ⟨halt, halted⟩
        cases halted
      · rintro (⟨_, again, _⟩ | ⟨_, _, again, _⟩)
        all_goals cases prepared.symm.trans again
  | ok work =>
      rw [Bridge.methodHalts_iff prepared]
      refine exists_congr fun halt => Run.bind_eq_error_iff.trans (or_iff_left ?_)
      rintro ⟨_, _, _, answered⟩
      cases answered

/-- A call of a method succeeds exactly if it has no defect and its method ends. -/
theorem succeeds_invoke_iff (coherent : bridge.store.Coherent) :
    (invoke memory raw method buffers).Succeeds (Bridge.services (depth + 1)) bridge .nothing ↔
      (∀ error, ¬FirstOf (bridge.callDefects memory raw method buffers ++
        [bridge.methodRaises (Bridge.services depth) memory raw method buffers]) error) ∧
      ¬bridge.methodHalts (Bridge.services depth) memory raw method buffers := by
  have quiet := Bridge.services_quiet (depth + 1)
  have keeps : ∀ listener, invoke memory raw method buffers ≠ .setListener listener :=
    keeps_invoke
  have succeedsIff := exists_succeeds_iff bridge quiet keeps
  simp only [failsWith_invoke_iff coherent, halts_invoke_iff] at succeedsIff
  rw [← succeedsIff]
  refine ⟨fun succeeds => ⟨_, succeeds⟩, ?_⟩
  rintro ⟨response, succeeds⟩
  obtain ⟨_, _, _, rfl⟩ := (succeeds_iff quiet keeps).mp succeeds
  exact succeeds

end Invoke

/-! ## Creations -/

section Create

variable {memory : Memory} {info : Option CreateInfo} {depth : Nat} {read : Bridge}

private theorem keeps_create (listener : Option Listener) :
    create memory info ≠ .setListener listener := by
  intro same
  cases same

/-- A creation runs what its request is bound to, on the bridge as reading the request
leaves it. -/
theorem attempt_create_eq
    (readEq : Bridge.readRequest memory info bridge = .ok (CreateRequest.read memory info, read)) :
    (create memory info).attempt (Bridge.services (depth + 1)) bridge =
      Bridge.runRequest (Bridge.services depth) (bridge.prepareRequest memory info) read := by
  have registryEq := ((quiet_readRequest memory info).quiet readEq).registry_eq
  rw [Bridge.prepareRequest, attempt]
  simp only [bind, StateT.bind, readEq]
  cases CreateRequest.read memory info with
  | error cause => rfl
  | ok request =>
      have creates := Bridge.createWith_eq (Bridge.services depth) read request
      rw [Bridge.bindRequest, registryEq] at creates
      exact creates

/-- A creation fails with its first defect.  A fault that the constructor raises and a full
handle table come last. -/
theorem failsWith_create_iff :
    (create memory info).FailsWith (Bridge.services (depth + 1)) bridge error ↔
      FirstOf (bridge.requestDefects memory info ++
        [bridge.constructorRaises (Bridge.services depth) memory info,
          bridge.handlesExhausted (Bridge.services depth) memory info]) error := by
  obtain ⟨events, readEq⟩ := readRequest_eq memory info bridge
  rw [failsWith_iff (Bridge.services_quiet _) keeps_create, attempt_create_eq readEq,
    (Bridge.detects_prepareRequest bridge memory info).append_iff]
  cases prepared : bridge.prepareRequest memory info with
  | error cause =>
      constructor
      · rintro ⟨middle, failed⟩
        cases failed
        exact .inl rfl
      · rintro (same | ⟨⟨_, absurdity⟩, _⟩)
        · cases same
          exact ⟨_, rfl⟩
        · cases absurdity
  | ok found =>
      rcases found with ⟨request, _ | work⟩
      · constructor
        · rintro ⟨middle, failed⟩
          cases failed
        · rintro (absurdity | ⟨_, first⟩)
          · cases absurdity
          · rw [firstOf_cons_iff, firstOf_singleton_iff] at first
            rcases first with ⟨_, _, _, ⟨⟨_, again⟩, _⟩, _⟩ | ⟨_, _, _, _, ⟨⟨_, again⟩, _⟩, _⟩
            all_goals cases prepared.symm.trans again
      · rw [← Bridge.exists_runConstruction_error_iff prepared readEq]
        simp [Bridge.runRequest]

/-- A creation halts exactly if its constructor does. -/
theorem halts_create_iff :
    (create memory info).Halts (Bridge.services (depth + 1)) bridge ↔
      bridge.constructorHalts (Bridge.services depth) memory info := by
  obtain ⟨events, readEq⟩ := readRequest_eq memory info bridge
  rw [halts_iff (Bridge.services_quiet _) keeps_create, attempt_create_eq readEq]
  cases prepared : bridge.prepareRequest memory info with
  | error cause =>
      constructor
      · rintro ⟨halt, halted⟩
        cases halted
      · rintro ⟨_, _, ⟨_, again⟩, _⟩
        cases prepared.symm.trans again
  | ok found =>
      rcases found with ⟨request, _ | work⟩
      · constructor
        · rintro ⟨halt, halted⟩
          cases halted
        · rintro ⟨_, _, ⟨_, again⟩, _⟩
          cases prepared.symm.trans again
      · exact (Bridge.constructorHalts_iff prepared readEq).symm

/-- A creation issues no token exactly if the type is unknown. -/
theorem succeeds_create_zero_iff :
    (create memory info).Succeeds (Bridge.services (depth + 1)) bridge (.word 0) ↔
      bridge.unknownType memory info := by
  obtain ⟨events, readEq⟩ := readRequest_eq memory info bridge
  rw [succeeds_iff (Bridge.services_quiet _) keeps_create, attempt_create_eq readEq,
    Bridge.unknownType_iff]
  cases prepared : bridge.prepareRequest memory info with
  | error cause =>
      constructor
      · rintro ⟨_, _, answered, _⟩
        cases answered
      · rintro ⟨_, absurdity⟩
        cases absurdity
  | ok found =>
      rcases found with ⟨request, _ | work⟩
      · exact ⟨fun _ => ⟨request, rfl⟩, fun _ => ⟨none, _, rfl, rfl⟩⟩
      · constructor
        · rintro ⟨issued, after, answered, wordEq⟩
          obtain ⟨result, ran, effect, _, finishes⟩ :=
            Bridge.runConstruction_eq_ok_iff.mp answered
          cases result with
          | error raised => cases finishes
          | ok state =>
              rcases Bridge.finishConstruction_ok_cases finishes with ⟨token, same⟩ | ⟨_, same⟩
              · cases same
                exact absurd (Response.word.inj wordEq).symm token.raw_ne_zero
              · cases same
        · rintro ⟨_, same⟩
          cases same

/-- A creation issues a token exactly if it has no defect, the type is known and the
constructor ends. -/
theorem exists_succeeds_create_iff :
    (∃ raw, raw ≠ 0 ∧
        (create memory info).Succeeds (Bridge.services (depth + 1)) bridge (.word raw)) ↔
      (∀ error, ¬FirstOf (bridge.requestDefects memory info ++
        [bridge.constructorRaises (Bridge.services depth) memory info,
          bridge.handlesExhausted (Bridge.services depth) memory info]) error) ∧
      ¬bridge.unknownType memory info ∧
      ¬bridge.constructorHalts (Bridge.services depth) memory info := by
  have quiet := Bridge.services_quiet (depth + 1)
  have keeps : ∀ listener, create memory info ≠ .setListener listener := keeps_create
  have succeedsIff := exists_succeeds_iff bridge quiet keeps
  simp only [failsWith_create_iff, halts_create_iff] at succeedsIff
  have zeroIff : (create memory info).Succeeds (Bridge.services (depth + 1)) bridge (.word 0) ↔
      bridge.unknownType memory info := succeeds_create_zero_iff
  rw [← zeroIff]
  constructor
  · rintro ⟨raw, nonzero, succeeds⟩
    obtain ⟨sound, ends⟩ := succeedsIff.mp ⟨_, succeeds⟩
    refine ⟨sound, fun zero => nonzero ?_, ends⟩
    exact Response.word.inj (succeeds.unique zero)
  · rintro ⟨sound, known, ends⟩
    obtain ⟨response, succeeds⟩ := succeedsIff.mpr ⟨sound, ends⟩
    obtain ⟨issued, _, _, rfl⟩ := (succeeds_iff quiet keeps).mp succeeds
    cases issued with
    | none => exact absurd succeeds known
    | some token => exact ⟨token.raw, token.raw_ne_zero, succeeds⟩

end Create

end NativeCall

/-! ## Every state -/

namespace Machine

/-- In every state that a run reaches, a native call fails exactly with the first of its
defects, whatever other defects it has, and reports nothing if it has none.  A call of a
method that has none ends unless its method does not.  A creation that has none issues a
token unless its constructor does not end, and issues none and says nothing of it if the
type is unknown.  A token is live exactly if the run issued it and did not release it, as
long as the generations of slots do not start anew. -/
theorem errors_follow_precedence {options : BridgeOptions} {registry : TypeRegistry}
    {history : List Effect} {bridge : Bridge} {frames : List Frame}
    (reaches : Reaches (start options registry) history ⟨bridge, frames⟩) (depth : Nat)
    (memory : Memory) :
    (∀ raw method buffers,
      let call := NativeCall.invoke memory raw method buffers
      let services := Bridge.services (depth + 1)
      let defects := bridge.callDefects memory raw method buffers ++
        [bridge.methodRaises (Bridge.services depth) memory raw method buffers]
      let halts := bridge.methodHalts (Bridge.services depth) memory raw method buffers
      (∀ error, call.FailsWith services bridge error ↔ FirstOf defects error) ∧
      (call.Succeeds services bridge .nothing ↔ (∀ error, ¬FirstOf defects error) ∧ ¬halts) ∧
      (call.Halts services bridge ↔ halts)) ∧
    (∀ info,
      let call := NativeCall.create memory info
      let services := Bridge.services (depth + 1)
      let defects := bridge.requestDefects memory info ++
        [bridge.constructorRaises (Bridge.services depth) memory info,
          bridge.handlesExhausted (Bridge.services depth) memory info]
      let halts := bridge.constructorHalts (Bridge.services depth) memory info
      (∀ error, call.FailsWith services bridge error ↔ FirstOf defects error) ∧
      (call.Succeeds services bridge (.word 0) ↔ bridge.unknownType memory info) ∧
      ((∃ raw, raw ≠ 0 ∧ call.Succeeds services bridge (.word raw)) ↔
        (∀ error, ¬FirstOf defects error) ∧ ¬bridge.unknownType memory info ∧ ¬halts) ∧
      (call.Halts services bridge ↔ halts)) ∧
    ((TokenMap.ofHistory history).issued.length < Token.generations → ∀ token,
      bridge.store.handles.cell? token = (TokenMap.ofHistory history).lookup token) := by
  have coherent := (reaches.valid (valid_start options registry)).coherent
  refine ⟨?calls, ?creations, ?tokens⟩
  case calls =>
    intro raw method buffers
    exact ⟨fun error => NativeCall.failsWith_invoke_iff coherent,
      NativeCall.succeeds_invoke_iff coherent, NativeCall.halts_invoke_iff⟩
  case creations =>
    intro info
    exact ⟨fun error => NativeCall.failsWith_create_iff, NativeCall.succeeds_create_zero_iff,
      NativeCall.exists_succeeds_create_iff, NativeCall.halts_create_iff⟩
  case tokens => exact fun few => (reaches.represents few).cell?_eq

/-- A token that is dead is looked up after the arguments are decoded, of which the first
has an unknown tag and the second no address.  A negative count is reported whether or not
the type is known, unless a buffer is missing. -/
theorem errors_follow_precedence_gauge :
    let bridge := (proceed (.create "Gauge" [.int 3, .bool true] .owning) 2
      (start .defaults ⟨[], [("Gauge", Bridge.gauge)]⟩)).2.bridge
    (NativeCall.invoke .blank 7 (.ofText "Set") ⟨some [99, 4], some [⟨0⟩, ⟨0⟩], 2⟩).FailsWith
      (Bridge.services 1) bridge (.marshal (.unknownTag (some 0) 99)) ∧
    (NativeCall.invoke .blank 7 (.ofText "Set") ⟨none, none, 0⟩).FailsWith
      (Bridge.services 1) bridge (.handle (.invalid 7)) ∧
    (NativeCall.create .blank (some ⟨.ofText "Sundial", false, some [], some [], -1⟩)).FailsWith
      (Bridge.services 1) bridge (.marshal (.negativeCount (-1))) ∧
    (NativeCall.create .blank (some ⟨.ofText "Sundial", false, none, some [], -1⟩)).Succeeds
      (Bridge.services 1) bridge (.word 0) := by
  intro bridge
  have reaches : Reaches (start .defaults ⟨[], [("Gauge", Bridge.gauge)]⟩) _ ⟨bridge, []⟩ :=
    reaches_proceed (.create "Gauge" [.int 3, .bool true] .owning) 2 _
  obtain ⟨calls, creations, _⟩ := errors_follow_precedence reaches 0 .blank
  have coherent := (reaches.valid (valid_start _ _)).coherent
  refine ⟨?_, ?_, ?_, ?_⟩
  · refine ((calls _ _ _).1 _).mpr (firstOf_append_iff.mpr (.inl ?_))
    exact (Bridge.detects_prepareCall coherent .blank 7 (.ofText "Set")
      ⟨some [99, 4], some [⟨0⟩, ⟨0⟩], 2⟩ _).mp rfl
  · refine ((calls _ _ _).1 _).mpr (firstOf_append_iff.mpr (.inl ?_))
    exact (Bridge.detects_prepareCall coherent .blank 7 (.ofText "Set") ⟨none, none, 0⟩ _).mp rfl
  · refine ((creations _).1 _).mpr (firstOf_append_iff.mpr (.inl ?_))
    exact (bridge.detects_prepareRequest .blank
      (some ⟨.ofText "Sundial", false, ⟨some [], some [], -1⟩⟩) _).mp rfl
  · exact (creations _).2.1.mpr ⟨⟨"Sundial", .owning, []⟩, rfl, rfl⟩

end Machine

end ObjectBridge
