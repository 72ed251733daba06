import ObjectBridge.Proofs.Bridge.Runs

/-!
# The machine runs what bodies run

Whatever a run of a creation or of a call comes to, the machine gets there step
by step, at every depth of nesting and with any bodies waiting for the answer.
So every state that a run goes through is a state of the machine.
-/

namespace ObjectBridge

open Machine

/-- Frames that differ only in the body they hold, which may write with `save`. -/
structure Frame.Holds {σ α : Type} (save : σ → Bridge → Bridge) (hold : Program σ α → Frame) :
    Prop where
  request?_eq : ∀ body, (hold body).request? = body.request?
  resume_eq : ∀ body answer, (hold body).resume answer = hold (body.resume answer)
  advance?_eq : ∀ body bridge, (hold body).advance? bridge =
    (body.advance? save bridge).map fun (next, after) => (hold next, after)

theorem Frame.holds_construction (type : TypeDescriptor) (target : String) (mode : HandleMode) :
    Frame.Holds (fun state => nomatch state) fun body =>
      .construction ⟨type, target, body⟩ mode :=
  ⟨fun _ => rfl, fun _ _ => rfl, fun _ _ => rfl⟩

theorem Frame.holds_invocation (receiver : ObjectId) (target : String) :
    Frame.Holds (Bridge.setState receiver) fun body => .invocation ⟨receiver, target, body⟩ :=
  ⟨fun _ => rfl, fun _ _ => rfl, fun _ _ => rfl⟩

section Holds

variable {σ α : Type} {save : σ → Bridge → Bridge} {hold : Program σ α → Frame}
  {body next : Program σ α} {frames : List Frame} {bridge after : Bridge} {request : Request}
  {answer : Answer} {effect : Effect}

private theorem Frame.Holds.asks (holds : Frame.Holds save hold)
    (asked : body.request? = some request) : Asks (hold body :: frames) request :=
  (holds.request?_eq body).trans asked

private theorem Frame.Holds.resume (holds : Frame.Holds save hold) :
    Machine.resume answer (hold body :: frames) = hold (body.resume answer) :: frames := by
  rw [Machine.resume, holds.resume_eq]

private theorem Frame.Holds.answered (holds : Frame.Holds save hold)
    (asked : body.request? = some request)
    (reacts : bridge.react request = .answered answer effect after) :
    Step ⟨bridge, hold body :: frames⟩ effect ⟨after, hold (body.resume answer) :: frames⟩ := by
  rw [← holds.resume]
  exact .answered (holds.asks asked) reacts

private theorem Frame.Holds.advanced (holds : Frame.Holds save hold)
    (advances : body.advance? save bridge = some (next, after)) :
    Step ⟨bridge, hold body :: frames⟩ .quiet ⟨after, hold next :: frames⟩ := by
  refine .advanced ?_
  rw [holds.advance?_eq, advances]
  rfl

end Holds

/-- Whatever services answer, the machine comes to the same answer. -/
structure Services.Faithful (services : Services) : Prop where
  create : ∀ {typeName arguments mode bridge outcome after frames},
    services.create typeName arguments mode bridge = .ok (outcome, after) →
    Asks frames (.create typeName arguments mode) →
    ∃ history, Reaches ⟨bridge, frames⟩ history ⟨after, resume (.created outcome) frames⟩
  invoke : ∀ {token method arguments bridge outcome after frames},
    services.invoke token method arguments bridge = .ok (outcome, after) →
    Asks frames (.invoke token method arguments) →
    ∃ history, Reaches ⟨bridge, frames⟩ history ⟨after, resume (.invoked outcome) frames⟩

variable {services : Services}

theorem Bridge.react_destroy {bridge after : Bridge} {token : Token}
    {outcome : Except BridgeError Unit} (destroyed : bridge.destroy token = (outcome, after)) :
    ∃ effect, bridge.react (.destroy token) = .answered (.destroyed outcome) effect after := by
  rw [Bridge.destroy] at destroyed
  cases released : bridge.store.release token with
  | ok store =>
      rw [released] at destroyed
      cases destroyed
      exact ⟨.released token, by rw [Bridge.react, released]⟩
  | error cause =>
      rw [released] at destroyed
      cases destroyed
      exact ⟨.quiet, by rw [Bridge.react, released]⟩

/-- The machine runs a body to its end. -/
theorem Services.Faithful.run_reaches (faithful : services.Faithful) {σ α : Type}
    {save : σ → Bridge → Bridge} {hold : Program σ α → Frame} (holds : Frame.Holds save hold)
    (frames : List Frame) (body : Program σ α) {bridge after : Bridge} {result : Except Fault α}
    (ran : body.run services save bridge = .ok (result, after)) :
    ∃ ended history, ended.immediate? = some result ∧
      Reaches ⟨bridge, hold body :: frames⟩ history ⟨after, hold ended :: frames⟩ := by
  induction body generalizing bridge with
  | done value =>
      cases ran
      exact ⟨.done value, [], rfl, .refl⟩
  | fault raised =>
      cases ran
      exact ⟨.fault raised, [], rfl, .refl⟩
  | panic payload =>
      cases ran
      exact ⟨.panic payload, [], rfl, .refl⟩
  | write state rest ih =>
      obtain ⟨_, middle, saved, restRan⟩ := Run.bind_eq_ok_iff.mp ran
      cases saved
      obtain ⟨ended, history, endedEq, reaches⟩ := ih restRan
      exact ⟨ended, _, endedEq, (Reaches.single (holds.advanced rfl)).trans reaches⟩
  | create typeName arguments mode next ih =>
      obtain ⟨outcome, middle, created, restRan⟩ := Run.bind_eq_ok_iff.mp ran
      obtain ⟨ended, history, endedEq, reaches⟩ := ih outcome restRan
      have asks : Asks (hold (.create typeName arguments mode next) :: frames) _ :=
        holds.asks rfl
      obtain ⟨nested, nestedReaches⟩ := faithful.create created asks
      rw [holds.resume] at nestedReaches
      exact ⟨ended, _, endedEq, nestedReaches.trans reaches⟩
  | invoke token method arguments next ih =>
      obtain ⟨outcome, middle, invoked, restRan⟩ := Run.bind_eq_ok_iff.mp ran
      obtain ⟨ended, history, endedEq, reaches⟩ := ih outcome restRan
      have asks : Asks (hold (.invoke token method arguments next) :: frames) _ :=
        holds.asks rfl
      obtain ⟨nested, nestedReaches⟩ := faithful.invoke invoked asks
      rw [holds.resume] at nestedReaches
      exact ⟨ended, _, endedEq, nestedReaches.trans reaches⟩
  | destroy token next ih =>
      obtain ⟨outcome, middle, destroyed, restRan⟩ := Run.bind_eq_ok_iff.mp ran
      obtain ⟨ended, history, endedEq, reaches⟩ := ih outcome restRan
      obtain ⟨effect, reacts⟩ := Bridge.react_destroy (Except.ok.inj destroyed)
      exact ⟨ended, _, endedEq, (Reaches.single (holds.answered rfl reacts)).trans reaches⟩
  | collect next ih =>
      obtain ⟨summary, middle, collected, restRan⟩ := Run.bind_eq_ok_iff.mp ran
      obtain ⟨ended, history, endedEq, reaches⟩ := ih summary restRan
      cases collected
      have reacts : bridge.react .collect =
          .answered (.collected bridge.collect.1) .collected bridge.collect.2 := rfl
      exact ⟨ended, _, endedEq, (Reaches.single (holds.answered rfl reacts)).trans reaches⟩
  | internalCall className member moduleName next ih =>
      obtain ⟨_, middle, got, restRan⟩ := Run.bind_eq_ok_iff.mp ran
      cases got
      obtain ⟨ended, history, endedEq, reaches⟩ := ih _ restRan
      exact ⟨ended, _, endedEq, (Reaches.single (holds.advanced rfl)).trans reaches⟩
  | draw next ih =>
      obtain ⟨_, middle, got, setRan⟩ := Run.bind_eq_ok_iff.mp ran
      cases got
      obtain ⟨_, drawn, set, restRan⟩ := Run.bind_eq_ok_iff.mp setRan
      cases set
      obtain ⟨ended, history, endedEq, reaches⟩ := ih _ restRan
      exact ⟨ended, _, endedEq, (Reaches.single (holds.advanced rfl)).trans reaches⟩

private theorem Services.Faithful.createWith (faithful : services.Faithful) {typeName : String}
    {arguments : List Value} {mode : HandleMode} {bridge after : Bridge}
    {outcome : Except BridgeError (Option Token)} {frames : List Frame}
    (created : Bridge.createWith services typeName arguments mode bridge = .ok (outcome, after))
    (asks : Asks frames (.create typeName arguments mode)) :
    ∃ history, Reaches ⟨bridge, frames⟩ history ⟨after, resume (.created outcome) frames⟩ := by
  rcases Bridge.createWith_eq_ok_iff.mp created with
    answered | ⟨work, result, ran, effect, begun, bodyRan, finishes⟩
  · exact ⟨_, .single (.answered asks answered)⟩
  · obtain ⟨ended, history, endedEq, reaches⟩ := faithful.run_reaches
      (Frame.holds_construction work.type work.target mode) frames work.body bodyRan
    have finishEq : (Frame.construction { work with body := ended } mode).finish? ran =
        some (.created outcome, effect, after) := by
      have sameFinish : ran.finishConstruction { work with body := ended } mode result =
          (outcome, effect, after) := by
        rw [← finishes]
        cases result <;> rfl
      simp only [Frame.finish?, endedEq, Option.map_some, sameFinish]
    exact ⟨_, ((Reaches.single (.begun asks begun)).trans reaches).tail (.ended finishEq)⟩

private theorem Services.Faithful.invokeWith (faithful : services.Faithful) {token : Token}
    {method : String} {arguments : List Value} {bridge after : Bridge}
    {outcome : Except BridgeError (Option Value)} {frames : List Frame}
    (invoked : Bridge.invokeWith services token method arguments bridge = .ok (outcome, after))
    (asks : Asks frames (.invoke token method arguments)) :
    ∃ history, Reaches ⟨bridge, frames⟩ history ⟨after, resume (.invoked outcome) frames⟩ := by
  rcases Bridge.invokeWith_eq_ok_iff.mp invoked with
    answered | ⟨work, result, ran, begun, bodyRan, finishes⟩
  · exact ⟨_, .single (.answered asks answered)⟩
  · obtain ⟨ended, history, endedEq, reaches⟩ := faithful.run_reaches
      (Frame.holds_invocation work.receiver work.target) frames work.body bodyRan
    have finishEq : (Frame.invocation { work with body := ended }).finish? ran =
        some (.invoked outcome, .quiet, after) := by
      have sameFinish : ran.finishInvocation { work with body := ended } result =
          (outcome, after) := finishes
      simp only [Frame.finish?, endedEq, Option.map_some, sameFinish]
    exact ⟨_, ((Reaches.single (.begun asks begun)).trans reaches).tail (.ended finishEq)⟩

/-- Creations and calls are runs of the machine, whatever the depth that they may
nest to. -/
theorem Bridge.services_faithful (depth : Nat) : (Bridge.services depth).Faithful := by
  induction depth with
  | zero =>
      constructor
      · intro _ _ _ _ _ _ _ created
        cases created
      · intro _ _ _ _ _ _ _ invoked
        cases invoked
  | succ depth ih => exact ⟨ih.createWith, ih.invokeWith⟩

end ObjectBridge
