import ObjectBridge.Proofs.Bridge.Natives
import ObjectBridge.Proofs.Bridge.Survival

/-!
# Failures leave the bridge intact

A request fails before a body begins, or because a body raises a fault.  In the first
case the bridge is as it was, but for its journal.  In the second it is as the body
left it: a constructor that raises a fault allocates nothing, and a method that raises
one ends as if it had returned, with its receiver in place.  Nothing that a body did is
taken back.
-/

namespace ObjectBridge

open Machine

/-! ## Early failures -/

/-- Whether an error is found before a body begins: all are but those that a body
raises and the want of room for a handle of a new object. -/
def BridgeError.isEarly : BridgeError → Bool
  | invocation _ _ => false
  | handle (.exhausted _) => false
  | _ => true

/-- Whether a request was turned down before a body began, because of an early error
or a type that is unknown. -/
def Answer.isEarly : Answer → Bool
  | created (.ok none) => true
  | created (.error error) => error.isEarly
  | invoked (.error error) => error.isEarly
  | destroyed (.error error) => error.isEarly
  | _ => false

namespace Bridge

variable {bridge after : Bridge} {frames : List Frame} {request : Request} {answer : Answer}
  {depth : Nat} {effect : Effect}

/-- A bridge that did nothing but add to its journal, reports apart. -/
structure Intact (before after : Bridge) : Prop where
  options_eq : after.options = before.options
  registry_eq : after.registry = before.registry
  calls_eq : after.calls = before.calls
  drawn_eq : after.drawn = before.drawn
  store_eq : ∃ events, after.store =
    { before.store with journal := before.store.journal ++ events }

theorem Intact.refl (bridge : Bridge) : bridge.Intact bridge :=
  ⟨rfl, rfl, rfl, rfl, #[], by rw [Array.append_empty]⟩

theorem Intact.trans {last : Bridge} (early : bridge.Intact after) (late : after.Intact last) :
    bridge.Intact last where
  options_eq := late.options_eq.trans early.options_eq
  registry_eq := late.registry_eq.trans early.registry_eq
  calls_eq := late.calls_eq.trans early.calls_eq
  drawn_eq := late.drawn_eq.trans early.drawn_eq
  store_eq := by
    obtain ⟨earlyEvents, earlyEq⟩ := early.store_eq
    obtain ⟨lateEvents, lateEq⟩ := late.store_eq
    exact ⟨earlyEvents ++ lateEvents, by rw [lateEq, earlyEq, Array.append_assoc]⟩

theorem intact_tell (bridge : Bridge) (event : Event) : bridge.Intact (bridge.tell event) :=
  ⟨rfl, rfl, rfl, rfl, #[event], rfl⟩

theorem intact_tellAll (bridge : Bridge) (events : List Event) :
    bridge.Intact (bridge.tellAll events) ∧ (bridge.tellAll events).reports = bridge.reports := by
  induction events generalizing bridge with
  | nil => exact ⟨.refl bridge, rfl⟩
  | cons event rest ih =>
      obtain ⟨intact, reportsEq⟩ := ih (bridge.tell event)
      exact ⟨(bridge.intact_tell event).trans intact, reportsEq⟩

theorem intact_fail (bridge : Bridge) (site : String) (error : BridgeError) :
    bridge.Intact (bridge.fail site error) where
  options_eq := by rw [fail_eq]
  registry_eq := by rw [fail_eq]
  calls_eq := by rw [fail_eq]
  drawn_eq := by rw [fail_eq]
  store_eq := bridge.fail_store site error

/-- A request that is answered with an early failure leaves the bridge intact. -/
theorem intact_of_react (reacts : bridge.react request = .answered answer effect after)
    (early : answer.isEarly = true) :
    effect = .quiet ∧ bridge.Intact after ∧ after.reports = bridge.reports := by
  cases answers_of_react reacts with
  | unknown absent => exact ⟨rfl, bridge.intact_tell _, rfl⟩
  | unprepared | unresolved | undispatched | unreleased => exact ⟨rfl, .refl bridge, rfl⟩
  | released | collected => contradiction

/-- A request that fails early is answered at once. -/
theorem react_of_ask (asked : request.ask (Bridge.services depth) bridge = .ok (answer, after))
    (early : answer.isEarly = true) :
    ∃ effect, bridge.react request = .answered answer effect after := by
  cases Request.asked_of_ask asked with
  | create created =>
      obtain ⟨_, ran⟩ := exists_createWith created
      rcases createWith_eq_ok_iff.mp ran with
        reacts | ⟨work, result, _, _, _, _, finishes⟩
      · exact ⟨_, reacts⟩
      · cases result with
        | error raised =>
            cases finishes
            contradiction
        | ok state =>
            rcases finishConstruction_ok_cases finishes with ⟨token, rfl⟩ | ⟨live, rfl⟩
            all_goals contradiction
  | invoke invoked =>
      obtain ⟨_, ran⟩ := exists_invokeWith invoked
      rcases invokeWith_eq_ok_iff.mp ran with reacts | ⟨work, result, _, _, _, finishes⟩
      · exact ⟨_, reacts⟩
      · cases result with
        | error raised =>
            cases finishes
            contradiction
        | ok result =>
            cases finishes
            contradiction
  | destroy destroyed => exact react_destroy destroyed
  | collect collected => contradiction

/-- A request that is answered at once does not fail with the fault of a body. -/
theorem outcome_ne_invocation_of_react
    (reacts : bridge.react request = .answered answer effect after) (target : String)
    (raised : Fault) : answer.outcome ≠ .error (.invocation target raised) := by
  intro failed
  cases answers_of_react reacts with
  | _ => cases failed

/-! ## Bodies that raise faults -/

/-- A constructor raised a fault: it ran to its end among the frames that wait for it,
and its end changes nothing, so the bridge is as the constructor left it. -/
structure ConstructorRaised (frames : List Frame) (bridge : Bridge) (request : Request)
    (target : String) (raised : Fault) (after : Bridge) (work : Construction) (mode : HandleMode)
    (ended : Program Empty ObjectState) (history : List Effect) : Prop where
  target_eq : work.target = target
  begun : bridge.react request = .begun (.construction work mode) bridge
  ran : ∃ depth, work.body.run (Bridge.services depth) (fun state => nomatch state) bridge =
    .ok (.error raised, after)
  ended_eq : ended.immediate? = some (.error raised)
  reaches : Reaches ⟨bridge, .construction work mode :: frames⟩ history
    ⟨after, .construction { work with body := ended } mode :: frames⟩
  finish_eq : (Frame.construction { work with body := ended } mode).finish? after =
    some (.created (.error (.invocation target raised)), .quiet, after)

/-- A method raised a fault: it ran to its end among the frames that wait for it, and
its end changes no more than that it ceases to run, as if another method had left the
same bridge and returned.  Its receiver is in the heap, and every token that led to it
does, unless the journal tells of its release meanwhile. -/
structure MethodRaised (frames : List Frame) (bridge : Bridge) (request : Request)
    (target : String) (raised : Fault) (after : Bridge) (work : Invocation) (last : Bridge)
    (ended : Program ObjectState (Option Value)) (history : List Effect) : Prop where
  target_eq : work.target = target
  resolved : ∀ token method arguments, request = .invoke token method arguments →
    bridge.store.resolveId token = .ok work.receiver
  idle : bridge.store.running.contains work.receiver = false
  begun : bridge.react request = .begun (.invocation work) (bridge.enter work.receiver)
  ran : ∃ depth, work.body.run (Bridge.services depth) (setState work.receiver)
    (bridge.enter work.receiver) = .ok (.error raised, last)
  ended_eq : ended.immediate? = some (.error raised)
  reaches : Reaches ⟨bridge.enter work.receiver, .invocation work :: frames⟩ history
    ⟨last, .invocation { work with body := ended } :: frames⟩
  finish_eq : (Frame.invocation { work with body := ended }).finish? last =
    some (.invoked (.error (.invocation target raised)), .quiet, after)
  after_eq : after = { last with store := last.store.leave }
  left : last.store.Left after.store
  returned : ∀ services (other : Invocation) (before : Bridge) result,
    before.store.running.contains other.receiver = false →
    other.body.run services (setState other.receiver) (before.enter other.receiver) =
      .ok (.ok result, last) →
    runInvocation services other before = .ok (.ok result, after)
  running_eq : after.store.running = bridge.store.running
  contains : after.store.heap.contains work.receiver = true
  tokens : ∀ token events, after.store.journal = bridge.store.journal ++ events →
    bridge.store.resolveId token = .ok work.receiver →
    .released token ∉ events → after.store.resolveId token = .ok work.receiver

theorem exists_constructorRaised {typeName : String} {arguments : List Value} {mode : HandleMode}
    {target : String} {raised : Fault} (frames : List Frame)
    (created : (Bridge.services depth).create typeName arguments mode bridge =
      .ok (.error (.invocation target raised), after)) :
    ∃ work ended history, ConstructorRaised frames bridge (.create typeName arguments mode) target
      raised after work mode ended history := by
  obtain ⟨shallower, ran⟩ := exists_createWith created
  rcases createWith_eq_ok_iff.mp ran with
    reacts | ⟨work, result, left, effect, begun, bodyRan, finishes⟩
  · exact absurd rfl (outcome_ne_invocation_of_react reacts target raised)
  · cases result with
    | ok state =>
        rcases finishConstruction_ok_cases finishes with ⟨_, absurdity⟩ | ⟨_, absurdity⟩
        all_goals cases absurdity
    | error fault =>
        cases finishes
        obtain ⟨ended, history, endedEq, reaches⟩ :=
          (Bridge.services_faithful shallower).run_reaches
            (Frame.holds_construction work.type work.target mode) frames work.body bodyRan
        refine ⟨work, ended, history, rfl, begun, ⟨shallower, bodyRan⟩, endedEq, reaches, ?_⟩
        simp only [Frame.finish?, endedEq, Option.map_some]
        rfl

theorem exists_methodRaised {token : Token} {method : String} {arguments : List Value}
    {target : String} {raised : Fault} (valid : Machine.Valid ⟨bridge, frames⟩)
    (asks : Asks frames (.invoke token method arguments))
    (invoked : (Bridge.services depth).invoke token method arguments bridge =
      .ok (.error (.invocation target raised), after)) :
    ∃ work last ended history, MethodRaised frames bridge (.invoke token method arguments) target
      raised after work last ended history := by
  obtain ⟨shallower, ran⟩ := exists_invokeWith invoked
  rcases invokeWith_eq_ok_iff.mp ran with reacts | ⟨work, result, last, begun, bodyRan, finishes⟩
  · exact absurd rfl (outcome_ne_invocation_of_react reacts target raised)
  · cases result with
    | ok result => cases finishes
    | error fault =>
        cases finishes
        obtain ⟨ended, history, endedEq, reaches⟩ :=
          (Bridge.services_faithful shallower).run_reaches
            (Frame.holds_invocation work.receiver work.target) frames work.body bodyRan
        obtain ⟨resolved, idle⟩ : bridge.store.resolveId token = .ok work.receiver ∧
            bridge.store.running.contains work.receiver = false := by
          cases begins_of_react begun with
          | invocation resolved idle => exact ⟨resolved, idle⟩
        have entered := (Step.begun asks begun).valid valid
        have validLast := reaches.valid entered
        have left : last.store.Left last.store.leave := validLast.coherent.left
        have member : work.receiver ∈ last.store.leave.heap.objects :=
          left.objects_eq ▸ validLast.receiver_mem
        refine ⟨work, last, ended, history, ?_⟩
        exact
          { target_eq := rfl
            resolved := by
              rintro _ _ _ ⟨⟩
              exact resolved
            idle := idle
            begun := begun
            ran := ⟨shallower, bodyRan⟩
            ended_eq := endedEq
            reaches := reaches
            finish_eq := by
              simp only [Frame.finish?, endedEq, Option.map_some]
              rfl
            after_eq := rfl
            left := left
            returned := fun _ _ _ _ otherIdle otherRan =>
              runInvocation_eq_ok_iff.mpr ⟨otherIdle, _, last, otherRan, rfl⟩
            running_eq := calc
              last.store.leave.running = last.store.running.tail := left.running_eq
              _ = receivers frames := congrArg List.tail validLast.running_eq
              _ = bridge.store.running := valid.running_eq.symm
            contains := List.contains_iff_mem.mpr member
            tokens := by
              intro other events journalEq led kept
              obtain ⟨mode, cellEq⟩ := Store.exists_cell?_of_resolveId led
              have keptCell := reaches.cell?_eq_some entered cellEq
                (left.journal_eq.symm.trans journalEq) kept
              rw [← left.handles_eq] at keptCell
              exact validLast.coherent.leave.resolveId_of_mem keptCell member }

/-! ## Requests -/

/-- What becomes of a bridge, with bodies waiting for it, that answers a request with a
failure. -/
structure Withstands (frames : List Frame) (bridge : Bridge) (request : Request)
    (answer : Answer) (after : Bridge) : Prop where
  /-- No body began, and nothing but the journal is different. -/
  early : answer.isEarly = true → bridge.react request = .answered answer .quiet after ∧
    bridge.Intact after ∧ after.reports = bridge.reports
  constructor_raised : ∀ target raised, answer = .created (.error (.invocation target raised)) →
    ∃ work mode ended history,
      ConstructorRaised frames bridge request target raised after work mode ended history
  method_raised : ∀ target raised, answer = .invoked (.error (.invocation target raised)) →
    ∃ work last ended history,
      MethodRaised frames bridge request target raised after work last ended history

theorem withstands (valid : Machine.Valid ⟨bridge, frames⟩) (asks : Asks frames request)
    (asked : request.ask (Bridge.services depth) bridge = .ok (answer, after)) :
    bridge.Withstands frames request answer after where
  early early := by
    obtain ⟨effect, reacts⟩ := react_of_ask asked early
    obtain ⟨rfl, intact, reportsEq⟩ := intact_of_react reacts early
    exact ⟨reacts, intact, reportsEq⟩
  constructor_raised := by
    rintro target raised rfl
    cases Request.asked_of_ask asked with
    | create created =>
        obtain ⟨work, ended, history, constructorRaised⟩ := exists_constructorRaised frames created
        exact ⟨work, _, ended, history, constructorRaised⟩
  method_raised := by
    rintro target raised rfl
    cases Request.asked_of_ask asked with
    | invoke invoked => exact exists_methodRaised valid asks invoked

end Bridge

/-! ## Calls of native code -/

/-- What becomes of a bridge that no body runs on when native code calls it, given what
the call asks for as its input reads. -/
structure NativeCall.Withstood (depth : Nat) (call : NativeCall)
    (input : Except BridgeError Request) (bridge : Bridge) (response : Response)
    (after : Bridge) : Prop where
  /-- The call fails whatever the services, so no body began. -/
  unreadable : ∀ error, input = .error error → ∃ read,
    (∀ services, call.attempt services bridge = .ok (.error error, read)) ∧
    call.conclude (.error error) read = .ok (response, after) ∧ bridge.Intact after
  /-- What the input asks for is withstood.  Reading it and answering the call change
  nothing but the journal and the reports. -/
  readable : ∀ request, input = .ok request → ∃ read answer middle,
    bridge.Intact read ∧ read.reports = bridge.reports ∧
    request.ask (Bridge.services depth) read = .ok (answer, middle) ∧
    read.Withstands [] request answer middle ∧
    call.conclude answer.outcome middle = .ok (response, after) ∧ middle.Intact after ∧
    (answer.isEarly = true → bridge.Intact after)

namespace NativeCall

variable {call : NativeCall} {input : Except BridgeError Request} {bridge after : Bridge}
  {outcome : Except BridgeError (Option Token)} {response : Response} {depth : Nat}

theorem intact_of_conclude (concluded : call.conclude outcome bridge = .ok (response, after)) :
    bridge.Intact after := by
  obtain ⟨_, rfl⟩ := conclude_eq_ok_iff.mp concluded
  cases outcome with
  | ok issued => exact .refl bridge
  | error error => exact bridge.intact_fail call.site error

theorem withstood (valid : Machine.Valid ⟨bridge, []⟩) (inputEq : call.input? = some input)
    (performed : call.hostCall.perform (Bridge.services depth) bridge = .ok (response, after)) :
    call.Withstood depth input bridge response after := by
  obtain ⟨events, attemptEq⟩ := attempt_eq inputEq bridge
  obtain ⟨readIntact, reportsEq⟩ := bridge.intact_tellAll events
  rw [perform_hostCall] at performed
  obtain ⟨outcome, middle, attempted, concluded⟩ := Run.bind_eq_ok_iff.mp performed
  have answeredIntact := intact_of_conclude concluded
  rw [attemptEq] at attempted
  constructor
  · rintro error rfl
    cases attempted
    exact ⟨_, attemptEq, concluded, readIntact.trans answeredIntact⟩
  · rintro request rfl
    obtain ⟨answer, _, asked, answered⟩ := Run.bind_eq_ok_iff.mp attempted
    cases answered
    obtain ⟨_, storeEq⟩ := readIntact.store_eq
    have validRead : Machine.Valid ⟨bridge.tellAll events, []⟩ := (Step.outside storeEq).valid valid
    have withstands := Bridge.withstands validRead trivial asked
    refine ⟨_, answer, middle, readIntact, reportsEq, asked, withstands, concluded,
      answeredIntact, fun early => ?_⟩
    exact (readIntact.trans (withstands.early early).2.1).trans answeredIntact

end NativeCall

/-! ## Every state -/

namespace Machine

/-- In every state that a run reaches, the bridge withstands whatever is asked of it: by
the body in progress or by the host, and then through an exported operation, too. -/
theorem failures_leave_bridge_intact {options : BridgeOptions} {registry : TypeRegistry}
    {history : List Effect} {bridge : Bridge} {frames : List Frame}
    (reaches : Reaches (start options registry) history ⟨bridge, frames⟩) (depth : Nat) :
    (∀ request answer after, Asks frames request →
      request.ask (Bridge.services depth) bridge = .ok (answer, after) →
        bridge.Withstands frames request answer after) ∧
    (frames = [] → ∀ (call : NativeCall) input response after, call.input? = some input →
      call.hostCall.perform (Bridge.services depth) bridge = .ok (response, after) →
        call.Withstood depth input bridge response after) := by
  have valid := reaches.valid (valid_start options registry)
  constructor
  · intro request answer after asks asked
    exact Bridge.withstands valid asks asked
  · rintro rfl call input response after inputEq performed
    exact NativeCall.withstood valid inputEq performed

/-- Blowing a fuse changes its state before it raises a fault. -/
def fuseBlow : MethodInfo :=
  ⟨"Blow", [], fun _ _ => .write ⟨"Fuse", [.bool false]⟩ (.fault (.plain "blown"))⟩

/-- A type with one constructor and one method, which raises a fault. -/
def fuse : TypeDescriptor where
  name := "Fuse"
  constructors := [⟨[], fun _ => .done ⟨"Fuse", [.bool true]⟩⟩]
  methods := [fuseBlow]

/-- A fuse that blew is still there, its token still leads to it, and it stays blown.
Releasing a handle that is none leaves the bridge alone. -/
theorem failures_leave_bridge_intact_fuse :
    let bridge := (proceed (.create "Fuse" [] .owning) 2
      (start .defaults ⟨[], [("Fuse", fuse)]⟩)).2.bridge
    (∃ answer after, (Request.invoke (.ofSlot 0 0) "Blow" []).ask (Bridge.services 1) bridge =
        .ok (answer, after) ∧
      after.store.heap.contains ⟨1⟩ = true ∧
      after.store.resolveId (.ofSlot 0 0) = .ok ⟨1⟩ ∧
      (after.store.heap.content? ⟨1⟩).map Prod.snd = some ⟨"Fuse", [.bool false]⟩) ∧
    ∃ after, (NativeCall.destroy 0).hostCall.perform (Bridge.services 1) bridge =
        .ok (.nothing, after) ∧
      bridge.Intact after := by
  intro bridge
  have reaches : Reaches (start .defaults ⟨[], [("Fuse", fuse)]⟩) _ ⟨bridge, []⟩ :=
    reaches_proceed (.create "Fuse" [] .owning) 2 _
  obtain ⟨withstands, withstood⟩ := failures_leave_bridge_intact reaches 1
  constructor
  · have resolved : bridge.store.resolveId (.ofSlot 0 0) = .ok ⟨1⟩ := rfl
    have raises : (Request.invoke (.ofSlot 0 0) "Blow" []).ask (Bridge.services 1) bridge =
        .ok (.invoked (.error (.invocation (fuse.methodSignature fuseBlow) (.plain "blown"))), _) :=
      rfl
    obtain ⟨work, _, _, _, raised⟩ := (withstands _ _ _ trivial raises).method_raised _ _ rfl
    have receiverEq : ⟨1⟩ = work.receiver :=
      Except.ok.inj (resolved.symm.trans (raised.resolved _ _ _ rfl))
    have resolves := raised.tokens (.ofSlot 0 0) #[] rfl (receiverEq ▸ resolved) (by simp)
    exact ⟨_, _, raises, receiverEq ▸ raised.contains, receiverEq ▸ resolves, rfl⟩
  · obtain ⟨_, _, _, intact⟩ := (withstood rfl (.destroy 0) _ _ _ rfl rfl).unreadable _ rfl
    exact ⟨_, rfl, intact⟩

end Machine

end ObjectBridge
