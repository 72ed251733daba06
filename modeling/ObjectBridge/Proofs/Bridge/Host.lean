import ObjectBridge.Bridge.Exports
import ObjectBridge.Proofs.Bridge.Adequacy

/-!
# What hosts do with bridges

A host operates on a bridge through its own calls and through the exported ones,
one after the other.  Whatever it does, the machine gets from the bridge before it
to the bridge after it, with no body in progress at either end.
-/

namespace ObjectBridge

open Machine

/-! ## Operations -/

/-- What a host asks of a bridge and gets a response to, through its own calls or
through the exported ones. -/
inductive HostCall where
  | create (typeName : String) (arguments : List Value) (mode : HandleMode)
  | invoke (token : Token) (method : String) (arguments : List Value)
  | destroy (token : Token)
  | exportCreate (memory : Memory) (info : Option CreateInfo)
  | exportInvoke (memory : Memory) (raw : UInt64) (method : InteropString)
      (buffers : ArgumentBuffers)
  | exportDestroy (raw : UInt64)
  | exportSetListener (listener : Option Listener)

/-- The response to a call of a host. -/
inductive Response where
  | created (outcome : Except BridgeError (Option Token))
  | invoked (outcome : Except BridgeError (Option Value))
  | destroyed (outcome : Except BridgeError Unit)
  | word (raw : UInt64)
  | nothing

/-- Respond to a call.  Bodies nest to the depth of the services. -/
def HostCall.perform (services : Services) : HostCall → Run Response
  | create typeName arguments mode => do
      let outcome ← services.create typeName arguments mode
      return .created outcome
  | invoke token method arguments => do
      let outcome ← services.invoke token method arguments
      return .invoked outcome
  | destroy token => do
      let outcome ← modifyGet fun bridge => bridge.destroy token
      return .destroyed outcome
  | exportCreate memory info => do
      let raw ← Bridge.exportCreateWith services memory info
      return .word raw
  | exportInvoke memory raw method buffers => do
      Bridge.exportInvokeWith services memory raw method buffers
      return .nothing
  | exportDestroy raw => do
      Bridge.exportDestroy raw
      return .nothing
  | exportSetListener listener => do
      Bridge.exportSetListener listener
      return .nothing

/-- What a host does with a bridge. -/
inductive Operation where
  | call (asked : HostCall)
  | collect

namespace Operation

/-- Operate on a bridge in order, and gather the responses. -/
def performAll (services : Services) : List Operation → Run (List Response)
  | [] => pure []
  | collect :: rest => do
      let _ ← modifyGet Bridge.collect
      performAll services rest
  | call asked :: rest => do
      let response ← asked.perform services
      let responses ← performAll services rest
      return response :: responses

end Operation

/-! ## Properties of calls -/

/-- A property that the operations of a bridge have and that sequencing keeps. -/
structure Services.Closed (services : Services) (holds : (α : Type) → Run α → Prop) : Prop where
  pure : ∀ {α : Type} (answer : α), holds α (Pure.pure answer)
  bind : ∀ {α β : Type} {first : Run α} {next : α → Run β},
    holds α first → (∀ answer, holds β (next answer)) → holds β (first >>= next)
  create : ∀ typeName arguments mode, holds _ (services.create typeName arguments mode)
  invoke : ∀ token method arguments, holds _ (services.invoke token method arguments)
  destroy : ∀ token, holds _ (modifyGet fun bridge => bridge.destroy token)
  tell : ∀ event, holds _ (modify fun bridge => bridge.tell event)
  answer : ∀ {α : Type} site (fallback : α) outcome,
    holds α (Bridge.answer site fallback outcome)
  setListener : ∀ listener, holds _ (modifyGet fun bridge => bridge.setListener listener)

namespace Services.Closed

variable {services : Services} {holds : (α : Type) → Run α → Prop}

theorem readRequest (closed : services.Closed holds) (memory : Memory)
    (info : Option CreateInfo) : holds _ (Bridge.readRequest memory info) := by
  simp only [Bridge.readRequest]
  split
  · split
    · exact closed.bind (closed.tell _) fun _ => closed.pure _
    · exact closed.pure _
  · exact closed.pure _

/-- What the operations of a bridge have in common, all calls of a host have. -/
theorem perform (closed : services.Closed holds) (call : HostCall) :
    holds _ (call.perform services) := by
  cases call with
  | create typeName arguments mode =>
      exact closed.bind (closed.create _ _ _) fun outcome => closed.pure _
  | invoke token method arguments =>
      exact closed.bind (closed.invoke _ _ _) fun outcome => closed.pure _
  | destroy token => exact closed.bind (closed.destroy _) fun outcome => closed.pure _
  | exportCreate memory info =>
      refine closed.bind ?_ fun raw => closed.pure _
      refine closed.bind (closed.readRequest memory info) fun request => ?_
      cases request with
      | error error => exact closed.bind (closed.pure _) fun outcome => closed.answer _ _ _
      | ok request => exact closed.bind (closed.create _ _ _) fun outcome => closed.answer _ _ _
  | exportInvoke memory raw method buffers =>
      refine closed.bind ?_ fun _ => closed.pure _
      simp only [Bridge.exportInvokeWith]
      cases Bridge.readCall memory raw method buffers with
      | error error => exact closed.bind (closed.pure _) fun outcome => closed.answer _ _ _
      | ok read => exact closed.bind (closed.invoke _ _ _) fun outcome => closed.answer _ _ _
  | exportDestroy raw =>
      refine closed.bind ?_ fun _ => closed.pure _
      simp only [Bridge.exportDestroy]
      cases Bridge.tokenOfRaw raw with
      | error error => exact closed.bind (closed.pure _) fun outcome => closed.answer _ _ _
      | ok token => exact closed.bind (closed.destroy _) fun outcome => closed.answer _ _ _
  | exportSetListener listener =>
      refine closed.bind ?_ fun _ => closed.pure _
      exact closed.bind (closed.setListener _) fun wasSet => closed.tell _

end Services.Closed

/-! ## The machine runs what hosts do -/

/-- A run that the machine makes when no body is in progress. -/
structure Run.Hosted {α : Type} (run : Run α) : Prop where
  reaches : ∀ {bridge answer after}, run bridge = .ok (answer, after) →
    ∃ history, Reaches ⟨bridge, []⟩ history ⟨after, []⟩

namespace Run.Hosted

variable {α β : Type}

theorem pure (answer : α) : Hosted (Pure.pure answer : Run α) := by
  constructor
  intro _ _ _ ran
  cases ran
  exact ⟨[], .refl⟩

theorem bind {first : Run α} {next : α → Run β} (start : Hosted first)
    (rest : ∀ answer, Hosted (next answer)) : Hosted (first >>= next) := by
  constructor
  intro _ _ _ ran
  obtain ⟨answer, middle, firstRan, restRan⟩ := Run.bind_eq_ok_iff.mp ran
  obtain ⟨early, earlyReaches⟩ := start.reaches firstRan
  obtain ⟨late, lateReaches⟩ := (rest answer).reaches restRan
  exact ⟨late ++ early, earlyReaches.trans lateReaches⟩

/-- What concerns neither objects nor handles. -/
theorem outside {change : Bridge → α × Bridge}
    (untouched : ∀ bridge, ∃ events, (change bridge).2.store =
      { bridge.store with journal := bridge.store.journal ++ events }) :
    Hosted (MonadStateOf.modifyGet change : Run α) := by
  constructor
  intro bridge _ _ ran
  obtain ⟨events, storeEq⟩ := untouched bridge
  rw [Except.ok.inj ran] at storeEq
  exact ⟨_, .single (.outside storeEq)⟩

theorem destroy (token : Token) : Hosted (modifyGet fun bridge => bridge.destroy token) := by
  constructor
  intro _ _ _ ran
  obtain ⟨effect, reacts⟩ := Bridge.react_destroy (Except.ok.inj ran)
  exact ⟨_, .single (@Step.answered _ _ [] _ _ _ trivial reacts)⟩

theorem collect : Hosted (modifyGet Bridge.collect) := by
  constructor
  intro bridge _ _ ran
  cases ran
  have reacts : bridge.react .collect =
      .answered (.collected bridge.collect.1) .collected bridge.collect.2 := rfl
  exact ⟨_, .single (@Step.answered _ _ [] _ _ _ trivial reacts)⟩

end Run.Hosted

theorem Bridge.fail_store (bridge : Bridge) (site : String) (error : BridgeError) :
    ∃ events, (bridge.fail site error).store =
      { bridge.store with journal := bridge.store.journal ++ events } := by
  simp only [Bridge.fail, Bridge.report]
  split
  · exact ⟨#[_], rfl⟩
  · exact ⟨#[_, _], rfl⟩

private theorem hosted_answer {α : Type} (site : String) (fallback : α)
    (outcome : Except BridgeError α) : Run.Hosted (Bridge.answer site fallback outcome) := by
  refine .outside fun bridge => ?_
  cases outcome with
  | ok answer => exact ⟨#[], by rw [Array.append_empty]; rfl⟩
  | error error => exact bridge.fail_store site error

variable {services : Services}

/-- The machine makes every call of a host. -/
theorem Services.Faithful.closed (faithful : services.Faithful) :
    services.Closed fun _ => Run.Hosted where
  pure := .pure
  bind := .bind
  create typeName arguments mode := by
    constructor
    intro _ _ _ created
    have asks : Asks [] (.create typeName arguments mode) := trivial
    exact faithful.create created asks
  invoke token method arguments := by
    constructor
    intro _ _ _ invoked
    have asks : Asks [] (.invoke token method arguments) := trivial
    exact faithful.invoke invoked asks
  destroy := .destroy
  tell event := .outside fun _ => ⟨#[event], rfl⟩
  answer := hosted_answer
  setListener _ := .outside fun _ => ⟨#[], by rw [Array.append_empty]; rfl⟩

namespace Operation

theorem hosted_performAll (faithful : services.Faithful) (operations : List Operation) :
    Run.Hosted (performAll services operations) := by
  induction operations with
  | nil => exact .pure _
  | cons operation rest ih =>
      cases operation with
      | collect => exact Run.Hosted.collect.bind fun _ => ih
      | call asked =>
          have performed := faithful.closed.perform asked
          exact performed.bind fun response => ih.bind fun responses => .pure _

/-- Whatever a host does with a bridge, the machine gets there. -/
theorem reaches_of_performAll {depth : Nat} {operations : List Operation}
    {responses : List Response} {bridge after : Bridge}
    (performed : performAll (Bridge.services depth) operations bridge = .ok (responses, after)) :
    ∃ history, Reaches ⟨bridge, []⟩ history ⟨after, []⟩ :=
  (hosted_performAll (Bridge.services_faithful depth) operations).reaches performed

end Operation

end ObjectBridge
