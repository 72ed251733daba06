import ObjectBridge.Proofs.Bridge.Change
import ObjectBridge.Proofs.Bridge.Signatures

/-!
# What creations and calls come to

There are few outcomes.  A creation comes to a token, to no token if the type is
unknown, or to an error: no constructor was selected, the constructor raised a fault,
or there was no room for a handle.  A call comes to what its method returns or to an
error: the token leads nowhere, no method answers or it may not be passed an argument,
or the method raised a fault.
-/

namespace ObjectBridge

/-! ## Asking -/

/-- Do what is asked, with bodies nesting to the depth of the services. -/
def Request.ask (services : Services) : Request → Run Answer
  | .create typeName arguments mode => do
      let outcome ← services.create typeName arguments mode
      return .created outcome
  | .invoke token method arguments => do
      let outcome ← services.invoke token method arguments
      return .invoked outcome
  | .destroy token => do
      let outcome ← modifyGet fun bridge => bridge.destroy token
      return .destroyed outcome
  | .collect => do
      let summary ← modifyGet Bridge.collect
      return .collected summary

/-- What was asked and how it was answered. -/
inductive Request.Asked (services : Services) (bridge after : Bridge) : Request → Answer → Prop
  | create {typeName : String} {arguments : List Value} {mode : HandleMode}
      {outcome : Except BridgeError (Option Token)} :
      services.create typeName arguments mode bridge = .ok (outcome, after) →
      Asked services bridge after (.create typeName arguments mode) (.created outcome)
  | invoke {token : Token} {method : String} {arguments : List Value}
      {outcome : Except BridgeError (Option Value)} :
      services.invoke token method arguments bridge = .ok (outcome, after) →
      Asked services bridge after (.invoke token method arguments) (.invoked outcome)
  | destroy {token : Token} {outcome : Except BridgeError Unit} :
      bridge.destroy token = (outcome, after) →
      Asked services bridge after (.destroy token) (.destroyed outcome)
  | collect {summary : CollectSummary} :
      bridge.collect = (summary, after) → Asked services bridge after .collect (.collected summary)

theorem Request.asked_of_ask {services : Services} {bridge after : Bridge} {request : Request}
    {answer : Answer} (asked : request.ask services bridge = .ok (answer, after)) :
    request.Asked services bridge after answer := by
  cases request with
  | create typeName arguments mode =>
      obtain ⟨outcome, _, created, answered⟩ := Run.bind_eq_ok_iff.mp asked
      cases answered
      exact .create created
  | invoke token method arguments =>
      obtain ⟨outcome, _, invoked, answered⟩ := Run.bind_eq_ok_iff.mp asked
      cases answered
      exact .invoke invoked
  | destroy token =>
      obtain ⟨outcome, _, destroyed, answered⟩ := Run.bind_eq_ok_iff.mp asked
      cases answered
      exact .destroy (Except.ok.inj destroyed)
  | collect =>
      obtain ⟨summary, _, collected, answered⟩ := Run.bind_eq_ok_iff.mp asked
      cases answered
      exact .collect (Except.ok.inj collected)

/-- What an answer comes to, and the token that it issues, if it issues one. -/
def Answer.outcome : Answer → Except BridgeError (Option Token)
  | created outcome => outcome
  | invoked outcome => outcome.map fun _ => none
  | destroyed outcome => outcome.map fun _ => none
  | collected _ => .ok none

/-! ## Outcomes -/

/-- Issuing a handle fails only for want of room. -/
theorem Store.exhausted_of_register {store : Store} {object : HeapObject} {mode : HandleMode}
    {cause : HandleError} (registered : store.register object mode = .error cause) :
    ∃ live, cause = .exhausted live := by
  cases tableRegistered : store.handles.register object.id mode with
  | error tableCause =>
      simp only [register, tableRegistered, Except.map] at registered
      cases registered
      exact ⟨_, (HandleTable.register_eq_error_iff.mp tableRegistered).2.2⟩
  | ok issued =>
      simp only [register, tableRegistered, Except.map] at registered
      cases registered

namespace Bridge

variable {services : Services} {bridge after : Bridge}

/-- A constructor that returns has its object get a handle, or there is no room for
one. -/
theorem finishConstruction_ok_cases {work : Construction} {mode : HandleMode}
    {state : ObjectState} {outcome : Except BridgeError (Option Token)} {effect : Effect}
    (finishes : bridge.finishConstruction work mode (.ok state) = (outcome, effect, after)) :
    (∃ token, outcome = .ok (some token)) ∨
      ∃ live, outcome = .error (.handle (.exhausted live)) := by
  cases finishes_of_finishConstruction finishes with
  | issued allocates registered => exact .inl ⟨_, rfl⟩
  | unissued allocates registered =>
      obtain ⟨live, rfl⟩ := Store.exhausted_of_register registered
      exact .inr ⟨live, rfl⟩

/-- A creation comes to no token exactly if the type is unknown; otherwise it comes to
a token, or to an error of dispatch, of the body or of the handle table. -/
theorem createWith_cases {typeName : String} {arguments : List Value} {mode : HandleMode}
    {outcome : Except BridgeError (Option Token)}
    (created : createWith services typeName arguments mode bridge = .ok (outcome, after)) :
    (bridge.registry.findType? typeName = none ∧ outcome = .ok none) ∨
      bridge.registry.findType? typeName ≠ none ∧
        ((∃ token, outcome = .ok (some token)) ∨
          (∃ cause, outcome = .error (.dispatch cause)) ∨
          (∃ target raised, outcome = .error (.invocation target raised)) ∨
          ∃ live, outcome = .error (.handle (.exhausted live))) := by
  cases creation services bridge typeName arguments mode with
  | unknown absent told =>
      rw [told] at created
      cases created
      exact .inl ⟨absent, rfl⟩
  | refused found selected refused =>
      rw [refused] at created
      cases created
      exact .inr ⟨by rw [found]; exact Option.some_ne_none _, .inr (.inl ⟨_, rfl⟩)⟩
  | runs found selected member passed runs =>
      rw [runs, runConstruction_eq_ok_iff] at created
      obtain ⟨result, ran, effect, _, finishes⟩ := created
      refine .inr ⟨by rw [found]; exact Option.some_ne_none _, ?_⟩
      cases result with
      | error raised =>
          cases finishes
          exact .inr (.inr (.inl ⟨_, _, rfl⟩))
      | ok state =>
          rcases finishConstruction_ok_cases finishes with issued | exhausted
          · exact .inl issued
          · exact .inr (.inr (.inr exhausted))

theorem invokeWith_cases {token : Token} {method : String} {arguments : List Value}
    {outcome : Except BridgeError (Option Value)}
    (invoked : invokeWith services token method arguments bridge = .ok (outcome, after)) :
    (∃ result, outcome = .ok result) ∨
      (∃ cause, outcome = .error (.handle cause)) ∨
      (∃ cause, outcome = .error (.dispatch cause)) ∨
      ∃ target raised, outcome = .error (.invocation target raised) := by
  cases call services bridge token method arguments with
  | unresolved resolved refused =>
      rw [refused] at invoked
      cases invoked
      obtain ⟨cause, rfl⟩ := exists_handle_of_resolve resolved
      exact .inr (.inl ⟨cause, rfl⟩)
  | missing resolved found refused =>
      rw [refused] at invoked
      cases invoked
      exact .inr (.inr (.inl ⟨_, rfl⟩))
  | mismatched resolved found mismatch refused =>
      rw [refused] at invoked
      cases invoked
      exact .inr (.inr (.inl ⟨_, rfl⟩))
  | runs resolved found passed runs =>
      rw [runs, runInvocation_eq_ok_iff] at invoked
      obtain ⟨_, result, ran, _, finishes⟩ := invoked
      cases result with
      | error raised =>
          cases finishes
          exact .inr (.inr (.inr ⟨_, _, rfl⟩))
      | ok result =>
          cases finishes
          exact .inl ⟨result, rfl⟩

/-- A creation that does not run out of depth runs at some depth. -/
theorem exists_createWith {depth : Nat} {typeName : String} {arguments : List Value}
    {mode : HandleMode} {result : Except BridgeError (Option Token) × Bridge}
    (created : (Bridge.services depth).create typeName arguments mode bridge = .ok result) :
    ∃ shallower, createWith (Bridge.services shallower) typeName arguments mode bridge =
      .ok result := by
  cases depth with
  | zero => cases created
  | succ depth => exact ⟨depth, created⟩

/-- A call that does not run out of depth runs at some depth. -/
theorem exists_invokeWith {depth : Nat} {token : Token} {method : String}
    {arguments : List Value} {result : Except BridgeError (Option Value) × Bridge}
    (invoked : (Bridge.services depth).invoke token method arguments bridge = .ok result) :
    ∃ shallower, invokeWith (Bridge.services shallower) token method arguments bridge =
      .ok result := by
  cases depth with
  | zero => cases invoked
  | succ depth => exact ⟨depth, invoked⟩

end Bridge

end ObjectBridge
