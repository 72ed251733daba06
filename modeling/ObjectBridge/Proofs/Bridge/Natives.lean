import ObjectBridge.Proofs.Bridge.Host
import ObjectBridge.Proofs.Bridge.Outcomes
import ObjectBridge.Proofs.Bridge.Quiet

/-!
# Calls of native code

An exported operation attempts something that may fail and then answers.  The
attempt reads the native input and does what a host would do with it; the answer
gives the result as a plain word or as nothing, and reports the error if there is
one.  Reporting an error changes the reports of the bridge and adds to its journal,
and changes nothing else.
-/

namespace ObjectBridge

/-! ## Failures -/

/-- What the journal tells of an error that is reported with a listener registered or
without. -/
def ReportDesk.noticesOf (desk : ReportDesk) (site : String) (error : BridgeError) : List Event :=
  .exportFailed site error :: if desk.isWatched then [] else [.faultDropped (.bridge error)]

theorem ReportDesk.isNotice_of_mem_noticesOf {desk : ReportDesk} {site : String}
    {error : BridgeError} {event : Event} (member : event ∈ desk.noticesOf site error) :
    event.isNotice = true := by
  rw [noticesOf] at member
  split at member
  · rw [List.mem_singleton] at member
    rw [member]
    rfl
  · rw [List.mem_pair] at member
    rcases member with rfl | rfl <;> rfl

namespace Bridge

/-- Failing delivers the report of the error, if a listener is registered, and notes
it in the journal. -/
theorem fail_eq (bridge : Bridge) (site : String) (error : BridgeError) :
    bridge.fail site error =
      { bridge with
        reports := bridge.reports.deliver (.bridge error)
        store := { bridge.store with
          journal := bridge.store.journal ++ bridge.reports.noticesOf site error } } := by
  have watchedEq : (bridge.tell (.exportFailed site error)).reports = bridge.reports := rfl
  rw [fail, report, watchedEq, ReportDesk.noticesOf]
  cases watched : bridge.reports.isWatched with
  | true => rfl
  | false =>
      have deliverEq : bridge.reports.deliver (.bridge error) = bridge.reports := by
        rw [ReportDesk.isWatched, Option.isSome_eq_false_iff, Option.isNone_iff_eq_none] at watched
        rw [ReportDesk.deliver, watched]
      rw [deliverEq]
      rfl

/-- A failure is noted after the notices that there are. -/
theorem notices_fail (bridge : Bridge) (site : String) (error : BridgeError) :
    (bridge.fail site error).store.notices =
      bridge.store.notices ++ bridge.reports.noticesOf site error := by
  have noticed : (bridge.reports.noticesOf site error).filter Event.isNotice =
      bridge.reports.noticesOf site error :=
    List.filter_eq_self.mpr fun _ => ReportDesk.isNotice_of_mem_noticesOf
  rw [fail_eq, Store.notices, Array.toList_appendList, List.filter_append, noticed, Store.notices]

/-- An answer may be rendered before or after it is given. -/
theorem answer_bind_pure {α β γ : Type} (site : String) (fallback : β)
    (outcome : Except BridgeError α) (view : α → β) (render : β → γ) :
    (answer site fallback (outcome.map view) >>= fun result => pure (render result)) =
      answer site (render fallback) (outcome.map fun result => render (view result)) := by
  cases outcome <;> rfl

end Bridge

/-! ## Calls -/

/-- A call of an exported operation. -/
inductive NativeCall where
  | create (memory : Memory) (info : Option CreateInfo)
  | invoke (memory : Memory) (raw : UInt64) (method : InteropString) (buffers : ArgumentBuffers)
  | destroy (raw : UInt64)
  | setListener (listener : Option Listener)

namespace NativeCall

/-- The call as a host makes it. -/
def hostCall : NativeCall → HostCall
  | create memory info => .exportCreate memory info
  | invoke memory raw method buffers => .exportInvoke memory raw method buffers
  | destroy raw => .exportDestroy raw
  | setListener listener => .exportSetListener listener

/-- The name under which the journal has the failures of the call. -/
def site : NativeCall → String
  | create _ _ => "tether_create_object"
  | invoke _ _ _ _ => "tether_invoke_method"
  | destroy _ => "tether_destroy_object"
  | setListener _ => "tether_set_exception_callback"

/-- What the call attempts, before it is answered.  The result is the token that it
issues, if it issues one. -/
def attempt (services : Services) : NativeCall → Run (Except BridgeError (Option Token))
  | create memory info => do
      match ← Bridge.readRequest memory info with
      | .error error => return .error error
      | .ok request => services.create request.typeName request.arguments request.mode
  | invoke memory raw method buffers =>
      match Bridge.readCall memory raw method buffers with
      | .error error => return .error error
      | .ok (token, name, arguments) => do
          let outcome ← services.invoke token name arguments
          return outcome.map fun _ => none
  | destroy raw =>
      match Bridge.tokenOfRaw raw with
      | .error error => return .error error
      | .ok token => do
          let outcome ← modifyGet fun bridge => bridge.destroy token
          return outcome.map fun _ => none
  | setListener listener => do
      Bridge.exportSetListener listener
      return .ok none

/-- What a call asks for as its input reads, if it asks for anything. -/
def input? : NativeCall → Option (Except BridgeError Request)
  | create memory info => some ((CreateRequest.read memory info).map fun request =>
      .create request.typeName request.arguments request.mode)
  | invoke memory raw method buffers =>
      some ((Bridge.readCall memory raw method buffers).map fun (token, name, arguments) =>
        .invoke token name arguments)
  | destroy raw => some ((Bridge.tokenOfRaw raw).map .destroy)
  | setListener _ => none

/-- The response to a call that issued a token or none.  The latter is the fallback of
a call that fails, too. -/
def response : NativeCall → Option Token → Response
  | create _ _, issued => .word (Bridge.rawToken issued)
  | _, _ => .nothing

/-- Answer a call. -/
def conclude (call : NativeCall) (outcome : Except BridgeError (Option Token)) : Run Response :=
  Bridge.answer call.site (call.response none) (outcome.map call.response)

theorem perform_hostCall (services : Services) (call : NativeCall) :
    call.hostCall.perform services = call.attempt services >>= call.conclude := by
  cases call with
  | create memory info =>
      simp only [hostCall, HostCall.perform, Bridge.exportCreateWith, attempt, bind_assoc]
      refine congrArg (bind _) (funext fun request => ?_)
      cases request <;> simp only [bind_assoc, pure_bind, Bridge.answer_bind_pure] <;> rfl
  | invoke memory raw method buffers =>
      simp only [hostCall, HostCall.perform, Bridge.exportInvokeWith, attempt]
      cases Bridge.readCall memory raw method buffers with
      | error error => rfl
      | ok read =>
          simp only [bind_assoc, pure_bind]
          refine congrArg (bind _) (funext fun outcome => ?_)
          cases outcome <;> rfl
  | destroy raw =>
      simp only [hostCall, HostCall.perform, Bridge.exportDestroy, attempt]
      cases Bridge.tokenOfRaw raw with
      | error error => rfl
      | ok token =>
          simp only [bind_assoc, pure_bind]
          refine congrArg (bind _) (funext fun outcome => ?_)
          cases outcome <;> rfl
  | setListener listener => rfl

/-- A call is answered with what it came to, or with the fallback after failing. -/
theorem conclude_eq_ok_iff {call : NativeCall} {bridge after : Bridge}
    {outcome : Except BridgeError (Option Token)} {response : Response} :
    call.conclude outcome bridge = .ok (response, after) ↔
      response = call.response outcome.toOption.join ∧
        after = match outcome with
          | .ok _ => bridge
          | .error error => bridge.fail call.site error := by
  cases outcome with
  | ok issued =>
      constructor
      · intro concluded
        cases concluded
        exact ⟨rfl, rfl⟩
      · rintro ⟨rfl, rfl⟩
        rfl
  | error error =>
      constructor
      · intro concluded
        cases concluded
        exact ⟨rfl, rfl⟩
      · rintro ⟨rfl, rfl⟩
        rfl

/-! ## Attempts -/

variable {services : Services} {bridge after : Bridge}
  {outcome : Except BridgeError (Option Token)}

theorem quiet_readRequest (memory : Memory) (info : Option CreateInfo) :
    (Bridge.readRequest memory info).Quiet := by
  simp only [Bridge.readRequest]
  split
  · split
    · refine .bind (.modifyGet fun bridge => .ofStore ?_) fun _ => .pure _
      exact Store.notices_tell_of_not rfl
    · exact .pure _
  · exact .pure _

/-- Reading a request comes to what it reads as, and may add to the journal. -/
theorem readRequest_eq (memory : Memory) (info : Option CreateInfo) (bridge : Bridge) :
    ∃ events, Bridge.readRequest memory info bridge =
      .ok (CreateRequest.read memory info, bridge.tellAll events) := by
  simp only [Bridge.readRequest]
  generalize CreateRequest.read memory info = request
  cases info with
  | none => exact ⟨[], rfl⟩
  | some info =>
      cases request with
      | error error => exact ⟨[], rfl⟩
      | ok request =>
          cases drops : info.dropsArguments with
          | true =>
              exact ⟨[.buffersMissing request.typeName info.buffers.count],
                by simp only [drops]; rfl⟩
          | false => exact ⟨[], by simp only [drops]; rfl⟩

/-- Attempt what an input asks for, if it can be read. -/
def attemptInput (services : Services) :
    Except BridgeError Request → Run (Except BridgeError (Option Token))
  | .error error => pure (.error error)
  | .ok request => do
      let answer ← request.ask services
      return answer.outcome

/-- A call attempts what its input asks for, and reading the input takes no services. -/
theorem attempt_eq {call : NativeCall} {input : Except BridgeError Request}
    (inputEq : call.input? = some input) (bridge : Bridge) :
    ∃ events, ∀ services, call.attempt services bridge =
      attemptInput services input (bridge.tellAll events) := by
  cases call with
  | create memory info =>
      cases inputEq
      obtain ⟨events, readEq⟩ := readRequest_eq memory info bridge
      refine ⟨events, fun services => ?_⟩
      simp only [attempt, bind, StateT.bind, readEq, Except.bind]
      cases CreateRequest.read memory info with
      | error error => rfl
      | ok request =>
          simp only [Except.map, attemptInput, Request.ask, bind_assoc, pure_bind, Answer.outcome,
            bind_pure]
  | invoke memory raw method buffers =>
      cases inputEq
      refine ⟨[], fun services => ?_⟩
      simp only [attempt]
      cases Bridge.readCall memory raw method buffers with
      | error error => rfl
      | ok read =>
          simp only [Except.map, attemptInput, Request.ask, bind_assoc, pure_bind, Answer.outcome]
          rfl
  | destroy raw =>
      cases inputEq
      refine ⟨[], fun services => ?_⟩
      simp only [attempt]
      cases Bridge.tokenOfRaw raw with
      | error error => rfl
      | ok token =>
          simp only [Except.map, attemptInput, Request.ask, bind_assoc, pure_bind, Answer.outcome]
          rfl
  | setListener listener => cases inputEq

/-- An attempt reports nothing, unless it registers a listener. -/
theorem quiet_attempt (quiet : services.Quiet) {call : NativeCall}
    (keeps : ∀ listener, call ≠ .setListener listener) : (call.attempt services).Quiet := by
  cases call with
  | create memory info =>
      refine (quiet_readRequest memory info).bind fun request => ?_
      cases request with
      | error error => exact .pure _
      | ok request => exact quiet.create _ _ _
  | invoke memory raw method buffers =>
      simp only [attempt]
      cases Bridge.readCall memory raw method buffers with
      | error error => exact .pure _
      | ok read => exact (quiet.invoke _ _ _).bind fun outcome => .pure _
  | destroy raw =>
      simp only [attempt]
      cases Bridge.tokenOfRaw raw with
      | error error => exact .pure _
      | ok token =>
          exact .bind (.modifyGet fun bridge => .destroy bridge token) fun outcome => .pure _
  | setListener listener => exact absurd rfl (keeps listener)

end NativeCall

/-! ## Errors -/

/-- Whether an error says that an exported operation panicked outside any body. -/
def BridgeError.isPanic : BridgeError → Bool
  | panic _ _ => true
  | _ => false

/-- Whether an error says that the input of a native call cannot be read. -/
def BridgeError.isInput : BridgeError → Bool
  | marshal _ | interop _ | nullRequest | handle (.invalid _) => true
  | _ => false

theorem BridgeError.isPanic_of_isInput {error : BridgeError} (input : error.isInput = true) :
    error.isPanic = false := by
  cases error with
  | panic site message => cases input
  | _ => rfl

section Inputs

variable {memory : Memory} {error : BridgeError}

private theorem isInput_of_read {info : Option CreateInfo}
    (refused : CreateRequest.read memory info = .error error) : error.isInput = true := by
  cases info with
  | none =>
      cases refused
      rfl
  | some info =>
      simp only [CreateRequest.read] at refused
      cases textEq : info.typeName.text with
      | error cause =>
          rw [textEq] at refused
          cases refused
          rfl
      | ok name =>
          cases argumentsEq : info.arguments memory with
          | error cause =>
              rw [textEq, argumentsEq] at refused
              cases refused
              rfl
          | ok arguments =>
              rw [textEq, argumentsEq] at refused
              cases refused

private theorem isInput_of_tokenOfRaw {raw : UInt64}
    (refused : Bridge.tokenOfRaw raw = .error error) : error.isInput = true := by
  rw [Bridge.tokenOfRaw] at refused
  split at refused
  · cases refused
  · cases refused
    rfl

private theorem isInput_of_readCall {raw : UInt64} {method : InteropString}
    {buffers : ArgumentBuffers}
    (refused : Bridge.readCall memory raw method buffers = .error error) :
    error.isInput = true := by
  rw [Bridge.readCall] at refused
  cases tokenEq : Bridge.tokenOfRaw raw with
  | error cause =>
      rw [tokenEq] at refused
      cases refused
      exact isInput_of_tokenOfRaw tokenEq
  | ok token =>
      cases textEq : method.text with
      | error cause =>
          rw [tokenEq, textEq] at refused
          cases refused
          rfl
      | ok name =>
          cases argumentsEq : buffers.decode memory with
          | error cause =>
              rw [tokenEq, textEq, argumentsEq] at refused
              cases refused
              rfl
          | ok arguments =>
              rw [tokenEq, textEq, argumentsEq] at refused
              cases refused

/-- The input of a native call that cannot be read says so. -/
theorem NativeCall.isInput_of_input? {call : NativeCall}
    (refused : call.input? = some (.error error)) : error.isInput = true := by
  cases call with
  | create memory info =>
      have refused := Option.some.inj refused
      cases readEq : CreateRequest.read memory info with
      | error cause =>
          rw [readEq] at refused
          cases refused
          exact isInput_of_read readEq
      | ok request =>
          rw [readEq] at refused
          cases refused
  | invoke memory raw method buffers =>
      have refused := Option.some.inj refused
      cases readEq : Bridge.readCall memory raw method buffers with
      | error cause =>
          rw [readEq] at refused
          cases refused
          exact isInput_of_readCall readEq
      | ok read =>
          rw [readEq] at refused
          cases refused
  | destroy raw =>
      have refused := Option.some.inj refused
      cases tokenEq : Bridge.tokenOfRaw raw with
      | error cause =>
          rw [tokenEq] at refused
          cases refused
          exact isInput_of_tokenOfRaw tokenEq
      | ok token =>
          rw [tokenEq] at refused
          cases refused
  | setListener listener => cases refused

end Inputs

/-- Nothing that is asked of a bridge fails with a panic outside any body. -/
theorem Request.isPanic_of_ask {request : Request} {answer : Answer} {bridge after : Bridge}
    {depth : Nat} {error : BridgeError}
    (asked : request.ask (Bridge.services depth) bridge = .ok (answer, after))
    (failed : answer.outcome = .error error) : error.isPanic = false := by
  cases asked_of_ask asked with
  | create created =>
      obtain ⟨_, ran⟩ := Bridge.exists_createWith created
      rcases Bridge.createWith_cases ran with
        ⟨_, rfl⟩ | ⟨_, ⟨_, rfl⟩ | ⟨_, rfl⟩ | ⟨_, _, rfl⟩ | ⟨_, rfl⟩⟩
      all_goals cases failed
      all_goals rfl
  | invoke invoked =>
      obtain ⟨_, ran⟩ := Bridge.exists_invokeWith invoked
      rcases Bridge.invokeWith_cases ran with ⟨_, rfl⟩ | ⟨_, rfl⟩ | ⟨_, rfl⟩ | ⟨_, _, rfl⟩
      all_goals cases failed
      all_goals rfl
  | destroy destroyed =>
      rw [Bridge.destroy] at destroyed
      split at destroyed
      · cases destroyed
        cases failed
      · cases destroyed
        cases failed
        rfl
  | collect collected => cases failed

namespace NativeCall

variable {bridge after : Bridge} {depth : Nat} {call : NativeCall}

/-- No attempt fails with a panic outside any body. -/
theorem isPanic_of_attempt {error : BridgeError}
    (attempted : call.attempt (Bridge.services depth) bridge = .ok (.error error, after)) :
    error.isPanic = false := by
  cases inputEq : call.input? with
  | none =>
      cases call with
      | setListener listener => cases attempted
      | _ => cases inputEq
  | some input =>
      obtain ⟨events, attemptEq⟩ := attempt_eq inputEq bridge
      rw [attemptEq] at attempted
      cases input with
      | error cause =>
          cases attempted
          exact BridgeError.isPanic_of_isInput (isInput_of_input? inputEq)
      | ok request =>
          obtain ⟨answer, _, asked, answered⟩ := Run.bind_eq_ok_iff.mp attempted
          obtain ⟨failed, _⟩ := Prod.mk.inj (Except.ok.inj answered)
          exact Request.isPanic_of_ask asked failed

/-- A creation comes to no token exactly if its request can be read and names a type
that is unknown. -/
theorem attempt_create_eq_none_iff {memory : Memory} {info : Option CreateInfo}
    {outcome : Except BridgeError (Option Token)}
    (attempted : (create memory info).attempt (Bridge.services depth) bridge =
      .ok (outcome, after)) :
    outcome = .ok none ↔ ∃ request, CreateRequest.read memory info = .ok request ∧
      bridge.registry.findType? request.typeName = none := by
  obtain ⟨_, readEq⟩ := readRequest_eq memory info bridge
  have registryEq := ((quiet_readRequest memory info).quiet readEq).registry_eq
  obtain ⟨request, middle, requestRan, created⟩ := Run.bind_eq_ok_iff.mp attempted
  rw [readEq] at requestRan
  cases requestRan
  cases requestEq : CreateRequest.read memory info with
  | error cause =>
      rw [requestEq] at created
      cases created
      simp
  | ok request =>
      rw [requestEq] at created
      obtain ⟨_, ran⟩ := Bridge.exists_createWith created
      simp only [Except.ok.injEq, exists_eq_left']
      rw [← registryEq]
      rcases Bridge.createWith_cases ran with
        ⟨absent, rfl⟩ | ⟨present, ⟨_, rfl⟩ | ⟨_, rfl⟩ | ⟨_, _, rfl⟩ | ⟨_, rfl⟩⟩
      · simp [absent]
      all_goals simp [present]

end NativeCall

end ObjectBridge
