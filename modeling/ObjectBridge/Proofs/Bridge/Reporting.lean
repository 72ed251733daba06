import ObjectBridge.Proofs.Bridge.Natives
import ObjectBridge.Proofs.Text.Passage

/-!
# One failure, one report

Whatever native code calls, and whatever the bodies do that its calls run, the
reports of a bridge change as the calls turn out: registering a listener registers
it, a call that succeeds changes nothing, and a call that fails has one report
delivered to the listener that is registered at that moment, or dropped if none is.
-/

namespace ObjectBridge

/-! ## Listeners -/

namespace Listener

/-- What a listener records reports under. -/
def name : Listener → String
  | recorder name | once name | handoff name _ _ => name

/-- The listener that is registered after a listener received a report. -/
def next : Listener → Option Listener
  | recorder name => some (recorder name)
  | once _ => none
  | handoff _ successor _ => successor.next

/-- What a listener has others record on its own account when it receives a report. -/
def followUps : Listener → List Delivery
  | recorder _ | once _ => []
  | handoff _ successor followUp =>
      ⟨successor.name, ReportDesk.received followUp.report⟩ :: successor.followUps

end Listener

namespace ReportDesk

theorem receive_eq (listener : Listener) (text : String) :
    receive listener text =
      (⟨listener.name, received text⟩ :: listener.followUps, listener.next) := by
  induction listener generalizing text with
  | recorder name => rfl
  | once name => rfl
  | handoff name successor followUp ih =>
      rw [receive, ih]
      rfl

variable {desk : ReportDesk}

/-- A report is delivered once, to the listener that is registered. -/
theorem deliver_of_some {listener : Listener} (registered : desk.listener = some listener)
    (failure : Failure) :
    desk.deliver failure =
      ⟨listener.next,
        desk.delivered ++ ⟨listener.name, received failure.report⟩ :: listener.followUps⟩ := by
  rw [deliver, registered]
  simp only [receive_eq]

/-- A report is dropped if no listener is registered. -/
theorem deliver_of_none (unregistered : desk.listener = none) (failure : Failure) :
    desk.deliver failure = desk := by
  rw [deliver, unregistered]

end ReportDesk

/-! ## Calls -/

/-- The reports of a bridge, and what its journal tells of failures. -/
def Bridge.reported (bridge : Bridge) : ReportDesk × List Event :=
  (bridge.reports, bridge.store.notices)

theorem Bridge.Quiet.reported_eq {before after : Bridge} (quiet : before.Quiet after) :
    after.reported = before.reported :=
  Prod.ext quiet.reports_eq quiet.notices_eq

namespace NativeCall

/-- What native code gets of a call: what the call comes to, and the response. -/
abbrev Answered := Except BridgeError (Option Token) × Response

/-- The reports after a call, given what it comes to. -/
def settle (reported : ReportDesk × List Event) :
    NativeCall × Except BridgeError (Option Token) → ReportDesk × List Event
  | (setListener listener, _) => (reported.1.register listener, reported.2)
  | (_, .ok _) => reported
  | (call, .error error) =>
      (reported.1.deliver (.bridge error), reported.2 ++ reported.1.noticesOf call.site error)

/-- Make calls in order, and gather what they come to and the responses. -/
def performAll (services : Services) : List NativeCall → Run (List Answered)
  | [] => pure []
  | call :: rest => do
      let outcome ← call.attempt services
      let response ← call.conclude outcome
      let others ← performAll services rest
      return (outcome, response) :: others

/-- Hosts make the same calls. -/
theorem performAll_hostCall (services : Services) (calls : List NativeCall) :
    Operation.performAll services (calls.map fun call => .call call.hostCall) =
      List.map Prod.snd <$> performAll services calls := by
  induction calls with
  | nil => rfl
  | cons call rest ih =>
      simp only [List.map_cons, Operation.performAll, perform_hostCall, ih, performAll,
        bind_assoc, map_bind, map_pure, bind_map_left]

/-- A call as native code is entitled to: it is answered with its result, or with the
fallback if it failed; it did not fail with a panic outside any body; and a creation is
answered with zero exactly if it failed or came to no token, which it does exactly if it
named a type that is unknown. -/
structure Accounted (registry : TypeRegistry) (call : NativeCall) (answered : Answered) :
    Prop where
  response_eq : answered.2 = call.response answered.1.toOption.join
  isPanic_eq : ∀ error, answered.1 = .error error → error.isPanic = false
  eq_zero_iff : ∀ memory info, call = .create memory info →
    (answered.2 = .word 0 ↔ answered.1 = .ok none ∨ ∃ error, answered.1 = .error error)
  eq_none_iff : ∀ memory info, call = .create memory info →
    (answered.1 = .ok none ↔ ∃ request, CreateRequest.read memory info = .ok request ∧
      registry.findType? request.typeName = none)

private theorem response_create_eq_zero_iff {memory : Memory} {info : Option CreateInfo}
    {outcome : Except BridgeError (Option Token)} :
    (create memory info).response outcome.toOption.join = .word 0 ↔
      outcome = .ok none ∨ ∃ error, outcome = .error error := by
  rcases outcome with error | _ | token
  · simp [response, Bridge.rawToken, Except.toOption]
  · simp [response, Bridge.rawToken, Except.toOption]
  · simp [response, Bridge.rawToken, Except.toOption, token.raw_ne_zero]

variable {depth : Nat} {bridge middle after : Bridge}

private theorem settle_ok {call : NativeCall} (keeps : ∀ listener, call ≠ .setListener listener)
    (reported : ReportDesk × List Event) (issued : Option Token) :
    settle reported (call, .ok issued) = reported := by
  cases call with
  | setListener listener => exact absurd rfl (keeps listener)
  | _ => rfl

private theorem settle_error {call : NativeCall} (keeps : ∀ listener, call ≠ .setListener listener)
    (reported : ReportDesk × List Event) (error : BridgeError) :
    settle reported (call, .error error) =
      (reported.1.deliver (.bridge error),
        reported.2 ++ reported.1.noticesOf call.site error) := by
  cases call with
  | setListener listener => exact absurd rfl (keeps listener)
  | _ => rfl

/-- Failing settles the reports as a failed call does. -/
theorem reported_fail (bridge : Bridge) (site : String) (error : BridgeError) :
    (bridge.fail site error).reported =
      (bridge.reports.deliver (.bridge error),
        bridge.store.notices ++ bridge.reports.noticesOf site error) := by
  refine Prod.ext ?_ (bridge.notices_fail site error)
  rw [Bridge.fail_eq, Bridge.reported]

/-- One call settles the reports as it turns out, and leaves the types alone. -/
theorem reported_of_call {call : NativeCall} {outcome : Except BridgeError (Option Token)}
    {response : Response}
    (attempted : call.attempt (Bridge.services depth) bridge = .ok (outcome, middle))
    (concluded : call.conclude outcome middle = .ok (response, after)) :
    after.reported = settle bridge.reported (call, outcome) ∧ after.registry = bridge.registry := by
  obtain ⟨_, rfl⟩ := conclude_eq_ok_iff.mp concluded
  by_cases keeps : ∀ listener, call ≠ .setListener listener
  · have quiet := (quiet_attempt (Bridge.services_quiet depth) keeps).quiet attempted
    cases outcome with
    | ok issued =>
        rw [settle_ok keeps]
        exact ⟨quiet.reported_eq, quiet.registry_eq⟩
    | error error =>
        have registryEq : (middle.fail call.site error).registry = middle.registry := by
          rw [Bridge.fail_eq]
        rw [settle_error keeps, reported_fail, quiet.reports_eq, quiet.notices_eq]
        exact ⟨rfl, registryEq.trans quiet.registry_eq⟩
  · push Not at keeps
    obtain ⟨listener, rfl⟩ := keeps
    cases attempted
    exact ⟨Prod.ext rfl (Store.notices_tell_of_not rfl), rfl⟩

theorem accounted_of_call {call : NativeCall} {answered : Answered}
    (attempted : call.attempt (Bridge.services depth) bridge = .ok (answered.1, middle))
    (concluded : call.conclude answered.1 middle = .ok (answered.2, after)) :
    call.Accounted bridge.registry answered where
  response_eq := (conclude_eq_ok_iff.mp concluded).1
  isPanic_eq error failed := isPanic_of_attempt (failed ▸ attempted)
  eq_zero_iff memory info creates := by
    rw [(conclude_eq_ok_iff.mp concluded).1, creates]
    exact response_create_eq_zero_iff
  eq_none_iff memory info creates := by
    subst creates
    exact attempt_create_eq_none_iff attempted

/-- Calls in order settle the reports one after the other, each as it turns out. -/
theorem reported_of_performAll {calls : List NativeCall} {answered : List Answered}
    (performed : performAll (Bridge.services depth) calls bridge = .ok (answered, after)) :
    after.reported = (calls.zip (answered.map Prod.fst)).foldl settle bridge.reported ∧
      after.registry = bridge.registry ∧
      List.Forall₂ (Accounted bridge.registry) calls answered := by
  induction calls generalizing bridge answered with
  | nil =>
      cases performed
      exact ⟨rfl, rfl, .nil⟩
  | cons call rest ih =>
      obtain ⟨outcome, middle, attempted, others⟩ := Run.bind_eq_ok_iff.mp performed
      obtain ⟨response, next, concluded, others⟩ := Run.bind_eq_ok_iff.mp others
      obtain ⟨later, last, restPerformed, gathered⟩ := Run.bind_eq_ok_iff.mp others
      cases gathered
      obtain ⟨reportedEq, registryEq⟩ := reported_of_call attempted concluded
      have accounted : call.Accounted bridge.registry (outcome, response) :=
        accounted_of_call attempted concluded
      obtain ⟨laterEq, laterRegistryEq, laterAccounted⟩ := ih restPerformed
      rw [registryEq] at laterRegistryEq laterAccounted
      rw [reportedEq] at laterEq
      exact ⟨laterEq, laterRegistryEq, .cons accounted laterAccounted⟩

/-! ## Sessions -/

/-- The listener that was set last, or the one that was there before. -/
def lastListener (initial : Option Listener) (calls : List NativeCall) : Option Listener :=
  calls.foldl (fun current call =>
    match call with
    | setListener listener => listener
    | _ => current) initial

/-- If no listener acts on its registration, the one that was set last is registered,
however many calls failed since. -/
theorem listener_settle (calls : List (NativeCall × Except BridgeError (Option Token)))
    {reported : ReportDesk × List Event}
    (steady : ∀ listener, reported.1.listener = some listener → listener.next = some listener)
    (allSteady : ∀ listener, setListener (some listener) ∈ calls.map Prod.fst →
      listener.next = some listener) :
    (calls.foldl settle reported).1.listener =
      lastListener reported.1.listener (calls.map Prod.fst) := by
  induction calls generalizing reported with
  | nil => rfl
  | cons turned rest ih =>
      have restSteady (listener : Listener)
          (set : setListener (some listener) ∈ rest.map Prod.fst) :
          listener.next = some listener :=
        allSteady listener (List.mem_cons_of_mem _ set)
      rcases turned with ⟨call, outcome⟩
      by_cases keeps : ∀ listener, call ≠ .setListener listener
      · have listenerEq :
            (settle reported (call, outcome)).1.listener = reported.1.listener := by
          cases outcome with
          | ok issued => rw [settle_ok keeps]
          | error error =>
              rw [settle_error keeps]
              cases registered : reported.1.listener with
              | none => exact (ReportDesk.deliver_of_none registered _).symm ▸ registered
              | some listener =>
                  rw [ReportDesk.deliver_of_some registered]
                  exact steady listener registered
        have lastEq : lastListener reported.1.listener (((call, outcome) :: rest).map Prod.fst) =
            lastListener reported.1.listener (rest.map Prod.fst) := by
          cases call with
          | setListener listener => exact absurd rfl (keeps listener)
          | _ => rfl
        rw [List.foldl_cons, ih (listenerEq ▸ steady) restSteady, listenerEq, lastEq]
      · push Not at keeps
        obtain ⟨listener, rfl⟩ := keeps
        refine ih ?_ restSteady
        rintro other registered
        cases registered
        exact allSteady other List.mem_cons_self

/-- However native code calls a bridge, and whatever the bodies do that its calls run,
the reports change as the calls turn out: a call that fails has one report delivered to
the listener that is registered then, which is the one set last unless listeners act on
their registration, and every other call has none.  Each call is answered with its
result, or with its fallback if it failed. -/
theorem one_report_per_failure {calls : List NativeCall} {responses : List Response}
    (performed : Operation.performAll (Bridge.services depth)
      (calls.map fun call => .call call.hostCall) bridge = .ok (responses, after)) :
    ∃ answered : List Answered,
      performAll (Bridge.services depth) calls bridge = .ok (answered, after) ∧
      responses = answered.map Prod.snd ∧
      List.Forall₂ (Accounted bridge.registry) calls answered ∧
      after.reported = (calls.zip (answered.map Prod.fst)).foldl settle bridge.reported ∧
      (∀ (desk : ReportDesk) (listener : Listener) (error : BridgeError),
        desk.listener = some listener → desk.deliver (.bridge error) =
          ⟨listener.next, desk.delivered ++
            ⟨listener.name, ReportDesk.received error.report⟩ :: listener.followUps⟩) ∧
      (∀ (desk : ReportDesk) (error : BridgeError),
        desk.listener = none → desk.deliver (.bridge error) = desk) ∧
      (∀ early : List (NativeCall × Except BridgeError (Option Token)),
        (∀ listener, bridge.reports.listener = some listener ∨
          setListener (some listener) ∈ early.map Prod.fst → listener.next = some listener) →
        (early.foldl settle bridge.reported).1.listener =
          lastListener bridge.reports.listener (early.map Prod.fst)) ∧
      ∀ text, (InteropString.ofText text).text = .ok (ReportDesk.received text) ∧
        ReportDesk.received text = String.ofList (text.toList.map fun character =>
          if character = '\x00' then '\uFFFD' else character) := by
  rw [performAll_hostCall, map_eq_pure_bind] at performed
  obtain ⟨answered, middle, answers, gathered⟩ := Run.bind_eq_ok_iff.mp performed
  cases gathered
  obtain ⟨reportedEq, _, accounted⟩ := reported_of_performAll answers
  refine ⟨answered, answers, rfl, accounted, reportedEq, ?_, ?_, ?_, ?_⟩
  · exact fun _ _ error registered => ReportDesk.deliver_of_some registered (.bridge error)
  · exact fun _ error unregistered => ReportDesk.deliver_of_none unregistered (.bridge error)
  · intro early steady
    exact listener_settle early (fun listener registered => steady listener (.inl registered))
      fun listener set => steady listener (.inr set)
  · exact fun text => ⟨InteropString.text_ofText text, rfl⟩

/-- A type whose constructor calls a method of an object that is not there, and does not
mind. -/
def hardy : TypeDescriptor where
  name := "Hardy"
  constructors := [⟨[], fun _ => .invoke (.ofSlot 7 0) "Get" [] fun _ => .done ⟨"Hardy", []⟩⟩]
  methods := []

/-- A request for an object of a type by its constructor without parameters. -/
def requestOf (typeName : String) : CreateInfo :=
  ⟨.ofText typeName, false, ⟨none, none, 0⟩⟩

/-- Of a nested failure that a body handles, a failure while a listener is registered, a
creation of an unknown type and a failure after the listener was removed, one is
delivered. -/
theorem one_report_per_failure_nested :
    let calls : List NativeCall :=
      [.setListener (some (.recorder "log")), .create .blank (some (requestOf "Hardy")),
        .destroy 99, .create .blank (some (requestOf "Shy")), .setListener none,
        .create .blank none]
    let bridge := Bridge.new .defaults ⟨[], [("Hardy", hardy)]⟩
    ∃ responses after answered,
      Operation.performAll (Bridge.services 2) (calls.map fun call => .call call.hostCall)
        bridge = .ok (responses, after) ∧
      after.reports.delivered.map (·.listener) = ["log"] ∧
      List.Forall₂ (Accounted bridge.registry) calls answered ∧
      after.reported = (calls.zip (answered.map Prod.fst)).foldl settle bridge.reported := by
  intro calls bridge
  have ends : ((Operation.performAll (Bridge.services 2)
      (calls.map fun call => .call call.hostCall) bridge).toOption.map fun ended =>
        ended.2.reports.delivered.map (·.listener)) = some ["log"] := by
    decide +kernel
  cases performed : Operation.performAll (Bridge.services 2)
      (calls.map fun call => .call call.hostCall) bridge with
  | error halt =>
      rw [performed] at ends
      cases ends
  | ok ended =>
      rw [performed] at ends
      obtain ⟨answered, _, _, accounted, reportedEq, _⟩ := one_report_per_failure performed
      exact ⟨ended.1, ended.2, answered, rfl, Option.some.inj ends, accounted, reportedEq⟩

end NativeCall

end ObjectBridge
