import ObjectBridge.Proofs.Bridge.Outcomes
import ObjectBridge.Proofs.Error.Chain

/-!
# Failures of nested bodies

A body that asks the bridge for something waits until the body that begins with it ends.
If that one fails, the waiting body may raise a fault because of the failure, and so may
the one that waits for it in turn.  What arrives at the host is then one error with the
failures of all these bodies inside each other, and its report shows them all.
-/

namespace ObjectBridge

variable {services : Services} {bridge middle after : Bridge}

/-- Run a method that has begun to its end. -/
def Bridge.runBegun (services : Services) (work : Bridge.Invocation) :
    Run (Except BridgeError (Option Value)) := do
  let result ← work.body.run services (Bridge.setState work.receiver)
  modify Bridge.leave
  return result.mapError (.invocation work.target)

theorem Bridge.runInvocation_eq_runBegun {work : Bridge.Invocation}
    (idle : bridge.store.running.contains work.receiver = false) :
    Bridge.runInvocation services work bridge =
      Bridge.runBegun services work (bridge.enter work.receiver) := by
  rw [Bridge.runInvocation, Run.get_bind, idle]
  rfl

/-! ## Bodies in progress -/

namespace Program

variable {σ α : Type} {save : σ → Bridge → Bridge} {body next : Program σ α}

/-- The fault that a body ends with, if it is at such an end. -/
def raised? : Program σ α → Option Fault
  | fault raised => some raised
  | panic payload => some (.ofPanic payload)
  | _ => none

theorem run_of_raised? {raised : Fault} (ended : body.raised? = some raised) :
    body.run services save bridge = .ok (.error raised, bridge) := by
  cases body with
  | fault _ =>
      cases ended
      rfl
  | panic _ =>
      cases ended
      rfl
  | _ => contradiction

theorem run_of_advance? (advanced : body.advance? save bridge = some (next, after)) :
    body.run services save bridge = next.run services save after := by
  cases body with
  | write state rest =>
      cases advanced
      rfl
  | internalCall className member moduleName next =>
      cases advanced
      rfl
  | draw next =>
      cases advanced
      rfl
  | _ => contradiction

theorem run_of_ask {request : Request} {answer : Answer} (asks : body.request? = some request)
    (asked : request.ask services bridge = .ok (answer, after)) :
    body.run services save bridge = (body.resume answer).run services save after := by
  cases body with
  | create typeName arguments mode next =>
      cases asks
      obtain ⟨outcome, _, created, answered⟩ := Run.bind_eq_ok_iff.mp asked
      cases answered
      exact Run.bind_of_eq_ok created _
  | invoke token method arguments next =>
      cases asks
      obtain ⟨outcome, _, invoked, answered⟩ := Run.bind_eq_ok_iff.mp asked
      cases answered
      exact Run.bind_of_eq_ok invoked _
  | destroy token next =>
      cases asks
      obtain ⟨outcome, _, destroyed, answered⟩ := Run.bind_eq_ok_iff.mp asked
      cases answered
      exact Run.bind_of_eq_ok destroyed _
  | collect next =>
      cases asks
      obtain ⟨summary, _, collected, answered⟩ := Run.bind_eq_ok_iff.mp asked
      cases answered
      exact Run.bind_of_eq_ok collected _
  | _ => contradiction

end Program

namespace Frame

variable {frame next last : Frame} {request : Request} {answer : Answer} {raised : Fault}

/-- The signature of the member whose body is in progress. -/
def target : Frame → String
  | construction work _ => work.target
  | invocation work => work.target

/-- The fault that the body ends with, if it is at such an end. -/
def raised? : Frame → Option Fault
  | construction work _ => work.body.raised?
  | invocation work => work.body.raised?

/-- The answer to whoever asked for the body, if it fails. -/
def failed (error : BridgeError) : Frame → Answer
  | construction _ _ => .created (.error error)
  | invocation _ => .invoked (.error error)

/-- The bridge after a body that failed: a method ceases to run. -/
def abandon (bridge : Bridge) : Frame → Bridge
  | construction _ _ => bridge
  | invocation _ => bridge.leave

/-- Run the rest of a body, and answer whoever asked for it. -/
def run (services : Services) : Frame → Run Answer
  | construction work mode => do
      let outcome ← Bridge.runConstruction services work mode
      return .created outcome
  | invocation work => do
      let outcome ← Bridge.runBegun services work
      return .invoked outcome

/-- A body in progress goes on: by itself, or with the answer to what it asks for. -/
inductive Proceeds (services : Services) : Frame → Bridge → Frame → Bridge → Prop
  | refl {frame : Frame} {bridge : Bridge} : Proceeds services frame bridge frame bridge
  | advanced {frame next last : Frame} {bridge middle after : Bridge} :
      frame.advance? bridge = some (next, middle) → Proceeds services next middle last after →
      Proceeds services frame bridge last after
  | answered {frame last : Frame} {bridge middle after : Bridge} {request : Request}
      {answer : Answer} :
      frame.request? = some request → request.ask services bridge = .ok (answer, middle) →
      Proceeds services (frame.resume answer) middle last after →
      Proceeds services frame bridge last after

/-! ## One step -/

theorem run_of_advance? (advanced : frame.advance? bridge = some (next, after)) :
    frame.run services bridge = next.run services after := by
  cases frame with
  | construction work mode =>
      obtain ⟨body, bodyAdvanced, rfl⟩ := advance?_construction_eq_some_iff.mp advanced
      refine Run.bind_congr (Run.bind_congr ?_ _) _
      exact Program.run_of_advance? bodyAdvanced
  | invocation work =>
      obtain ⟨body, bodyAdvanced, rfl⟩ := advance?_invocation_eq_some_iff.mp advanced
      refine Run.bind_congr (Run.bind_congr ?_ _) _
      exact Program.run_of_advance? bodyAdvanced

theorem run_of_ask (asks : frame.request? = some request)
    (asked : request.ask services bridge = .ok (answer, after)) :
    frame.run services bridge = (frame.resume answer).run services after := by
  cases frame with
  | construction work mode =>
      refine Run.bind_congr (Run.bind_congr ?_ _) _
      exact Program.run_of_ask asks asked
  | invocation work =>
      refine Run.bind_congr (Run.bind_congr ?_ _) _
      exact Program.run_of_ask asks asked

theorem run_of_raised? (ended : frame.raised? = some raised) :
    frame.run services bridge =
      .ok (frame.failed (.invocation frame.target raised), frame.abandon bridge) := by
  cases frame with
  | construction work mode =>
      exact Run.bind_of_eq_ok (Run.bind_of_eq_ok (Program.run_of_raised? ended) _) _
  | invocation work =>
      exact Run.bind_of_eq_ok (Run.bind_of_eq_ok (Program.run_of_raised? ended) _) _

/-! ## One call -/

/-- Two frames of one call, maybe at different points of its body. -/
structure SameCall (frame next : Frame) : Prop where
  target_eq : next.target = frame.target
  failed_eq : ∀ error, next.failed error = frame.failed error
  abandon_eq : ∀ bridge, next.abandon bridge = frame.abandon bridge

theorem SameCall.refl (frame : Frame) : frame.SameCall frame :=
  ⟨rfl, fun _ => rfl, fun _ => rfl⟩

theorem SameCall.trans (early : frame.SameCall next) (late : next.SameCall last) :
    frame.SameCall last where
  target_eq := late.target_eq.trans early.target_eq
  failed_eq error := (late.failed_eq error).trans (early.failed_eq error)
  abandon_eq bridge := (late.abandon_eq bridge).trans (early.abandon_eq bridge)

theorem sameCall_resume (frame : Frame) (answer : Answer) :
    frame.SameCall (frame.resume answer) := by
  cases frame <;> exact ⟨rfl, fun _ => rfl, fun _ => rfl⟩

theorem sameCall_of_advance? (advanced : frame.advance? bridge = some (next, after)) :
    frame.SameCall next := by
  cases frame with
  | construction work mode =>
      obtain ⟨body, _, rfl⟩ := advance?_construction_eq_some_iff.mp advanced
      exact ⟨rfl, fun _ => rfl, fun _ => rfl⟩
  | invocation work =>
      obtain ⟨body, _, rfl⟩ := advance?_invocation_eq_some_iff.mp advanced
      exact ⟨rfl, fun _ => rfl, fun _ => rfl⟩

namespace Proceeds

theorem trans (early : Proceeds services frame bridge next middle)
    (late : Proceeds services next middle last after) :
    Proceeds services frame bridge last after := by
  induction early with
  | refl => exact late
  | advanced advanced _ ih => exact .advanced advanced (ih late)
  | answered asks asked _ ih => exact .answered asks asked (ih late)

/-- A body that goes on runs on to the same end. -/
theorem run_eq (proceeds : Proceeds services frame bridge last after) :
    frame.run services bridge = last.run services after := by
  induction proceeds with
  | refl => rfl
  | advanced advanced _ ih => exact (run_of_advance? advanced).trans ih
  | answered asks asked _ ih => exact (run_of_ask asks asked).trans ih

theorem sameCall (proceeds : Proceeds services frame bridge last after) :
    frame.SameCall last := by
  induction proceeds with
  | refl => exact .refl _
  | advanced advanced _ ih => exact (sameCall_of_advance? advanced).trans ih
  | answered _ _ _ ih => exact (sameCall_resume _ _).trans ih

/-- A body that goes on until it raises a fault fails with it. -/
theorem run_eq_failed (proceeds : Proceeds services frame bridge last after)
    (ended : last.raised? = some raised) :
    frame.run services bridge =
      .ok (frame.failed (.invocation frame.target raised), frame.abandon after) := by
  have same := proceeds.sameCall
  rw [proceeds.run_eq, run_of_raised? ended, same.target_eq, same.failed_eq, same.abandon_eq]

end Proceeds

end Frame

/-! ## Requests -/

/-- A request that begins a body is answered by the run of the body. -/
theorem Request.ask_of_begun {request : Request} {frame : Frame} {entered : Bridge} {depth : Nat}
    (begun : bridge.react request = .begun frame entered) :
    request.ask (Bridge.services (depth + 1)) bridge =
      frame.run (Bridge.services depth) entered := by
  cases request with
  | create typeName arguments mode =>
      obtain ⟨type, work, found, prepared, rfl, rfl⟩ :=
        Bridge.react_create_eq_begun_iff.mp begun
      refine Run.bind_congr ?_ _
      change Bridge.createWith (Bridge.services depth) typeName arguments mode _ = _
      rw [Bridge.createWith, Run.get_bind, found]
      simp only [prepared]
  | invoke token method arguments =>
      obtain ⟨object, work, resolved, prepared, idle, rfl, rfl⟩ :=
        Bridge.react_invoke_eq_begun_iff.mp begun
      refine Run.bind_congr ?_ _
      change Bridge.invokeWith (Bridge.services depth) token method arguments _ = _
      rw [Bridge.invokeWith, Run.get_bind, resolved]
      simp only [prepared]
      exact Bridge.runInvocation_eq_runBegun idle
  | destroy token =>
      simp only [Bridge.react] at begun
      split at begun <;> contradiction
  | collect => contradiction

/-! ## Nests -/

/-- The failure of the body of `target`, inside those of the bodies that waited for it, the
outermost first.  Each of these has its own target and the message of the fault that it
raised because of the next one. -/
def BridgeError.nested (target : String) (raised : Fault) : List (String × String) → BridgeError
  | [] => .invocation target raised
  | (outer, message) :: levels =>
      .invocation outer (.because message (.bridge (nested target raised levels)))

/-- The text of an invocation that failed. -/
def invocationText (target : String) : String :=
  s!"Exception has been thrown by the target of an invocation: {target}"

/-- The texts of failures inside each other: the target and the message of each, from the
outermost to the innermost, and the causes of the latter. -/
def nestedTexts (target : String) (raised : Fault) (levels : List (String × String)) :
    List String :=
  levels.flatMap (fun (outer, message) => [invocationText outer, message]) ++
    invocationText target :: raised.message :: raised.causes

theorem BridgeError.texts_nested (target : String) (raised : Fault)
    (levels : List (String × String)) :
    (nested target raised levels).message :: (nested target raised levels).causes =
      nestedTexts target raised levels := by
  induction levels with
  | nil => rfl
  | cons level levels ih =>
      change invocationText level.1 :: level.2 ::
        ((nested target raised levels).message :: (nested target raised levels).causes) = _
      rw [ih]
      rfl

theorem BridgeError.report_nested (target : String) (raised : Fault)
    (levels : List (String × String)) :
    (nested target raised levels).report = reportOf (nestedTexts target raised levels) := by
  rw [← texts_nested]
  exact Failure.report_eq _

/-- A body in progress fails because it raises a fault, or because a body that it waits for
fails and it raises a fault because of that.  The levels are those of `BridgeError.nested`;
in between, each body may do what it likes. -/
inductive Frame.Unwinds (target : String) (raised : Fault) :
    Nat → List (String × String) → Frame → Bridge → Bridge → Prop
  | raised {depth : Nat} {frame ended : Frame} {bridge last : Bridge} :
      frame.target = target →
      frame.Proceeds (Bridge.services depth) bridge ended last →
      ended.raised? = some raised →
      Unwinds target raised depth [] frame bridge (frame.abandon last)
  | passed {depth : Nat} {levels : List (String × String)} {outer message : String}
      {frame waiting inner ended : Frame} {request : Request}
      {bridge asked entered failed last : Bridge} :
      frame.target = outer →
      frame.Proceeds (Bridge.services (depth + 1)) bridge waiting asked →
      waiting.request? = some request → asked.react request = .begun inner entered →
      Unwinds target raised depth levels inner entered failed →
      (waiting.resume (inner.failed (.nested target raised levels))).Proceeds
        (Bridge.services (depth + 1)) failed ended last →
      ended.raised? = some (.because message (.bridge (.nested target raised levels))) →
      Unwinds target raised (depth + 1) ((outer, message) :: levels) frame bridge
        (frame.abandon last)

variable {target : String} {raised : Fault} {levels : List (String × String)} {depth : Nat}
  {frame : Frame}

theorem Frame.Unwinds.run_eq (unwinds : Unwinds target raised depth levels frame bridge after) :
    frame.run (Bridge.services depth) bridge =
      .ok (frame.failed (.nested target raised levels), after) := by
  induction unwinds with
  | raised targetEq proceeds ended =>
      rw [← targetEq]
      exact proceeds.run_eq_failed ended
  | passed targetEq waits asks begun _ resumes ended ih =>
      have asked := (Request.ask_of_begun begun).trans ih
      have goesOn := waits.trans (.answered asks asked resumes)
      rw [← targetEq]
      exact goesOn.run_eq_failed ended

/-- A failure that every waiting body passes on arrives with all of them. -/
theorem Frame.Unwinds.ask_eq {request : Request} {entered : Bridge}
    (unwinds : Unwinds target raised depth levels frame entered after)
    (begun : bridge.react request = .begun frame entered) :
    request.ask (Bridge.services (depth + 1)) bridge =
      .ok (frame.failed (.nested target raised levels), after) :=
  (Request.ask_of_begun begun).trans unwinds.run_eq

/-! ## Reports -/

namespace Failure

/-- A report shows the failure and what lies behind it, each once and in order: following
the sources of a failure gives one chain, and the report has its texts, numbered after the
first.  An error that stands for the cause of a layer is the last of every chain, with the
text of the cause.  A failure that comes through bodies nested in each other, each of which
raises a fault because of the next one, arrives at the request that began the outermost,
and its report has the targets of all of them and then the innermost fault. -/
theorem reports_show_chains :
    (∀ failure : Failure, ∃ chain, failure.Chain chain ∧
      (∀ other, failure.Chain other → other = chain) ∧
      failure.report = reportOf ((failure :: chain).map message)) ∧
    (∀ (error : BridgeError) (text : String), error.Wraps text →
      error.report = text ∧
      ∀ (failure : Failure) (above below : List Failure),
        failure.Chain (above ++ .bridge error :: below) →
        below = [] ∧ failure.report = reportOf ((failure :: above).map message ++ [text])) ∧
    ∀ (depth : Nat) (request : Request) (frame : Frame) (bridge entered after : Bridge)
      (target : String) (raised : Fault) (levels : List (String × String)),
      bridge.react request = .begun frame entered →
      frame.Unwinds target raised depth levels entered after →
      request.ask (Bridge.services (depth + 1)) bridge =
        .ok (frame.failed (.nested target raised levels), after) ∧
      (BridgeError.nested target raised levels).report =
        reportOf (nestedTexts target raised levels) := by
  refine ⟨?_, ?_, ?_⟩
  · intro failure
    obtain ⟨chain, links⟩ := failure.exists_chain
    exact ⟨chain, links, fun other => links.unique, links.report_eq⟩
  · intro error text wraps
    have reportEq := wraps.chain.report_eq
    rw [List.map_singleton] at reportEq
    refine ⟨reportEq.trans wraps.message_eq, fun failure above below links => ?_⟩
    obtain rfl := wraps.eq_nil_of_chain links
    refine ⟨rfl, ?_⟩
    rw [links.report_eq, ← List.cons_append, List.map_append, List.map_singleton]
    exact congrArg (fun last => reportOf (_ ++ [last])) wraps.message_eq
  · intro depth request frame bridge entered after target raised levels begun unwinds
    exact ⟨unwinds.ask_eq begun, BridgeError.report_nested target raised levels⟩

/-- A type whose constructor raises a fault. -/
def kernel : TypeDescriptor where
  name := "Kernel"
  constructors := [⟨[], fun _ => .fault (.plain "hollow")⟩]
  methods := []

/-- Creating a shell takes a kernel. -/
def shellBody : Program Empty ObjectState :=
  .create "Kernel" [] .owning fun
    | .ok _ => .done ⟨"Shell", []⟩
    | .error error => .fault (.because "no kernel" (.bridge error))

/-- A type whose constructor raises a fault because of one that it waits for. -/
def shell : TypeDescriptor where
  name := "Shell"
  constructors := [⟨[], fun _ => shellBody⟩]
  methods := []

/-- Creating a shell fails because of its kernel, and the report tells of both. -/
theorem reports_show_chains_shell :
    let bridge := Bridge.new .defaults ⟨[], [("Shell", shell), ("Kernel", kernel)]⟩
    ∃ error, (Request.create "Shell" [] .owning).ask (Bridge.services 2) bridge =
        .ok (.created (.error error), bridge) ∧
      error.report =
        "Exception has been thrown by the target of an invocation: Shell..ctor()" ++
        "\nCaused by:" ++
        "\n    0: no kernel" ++
        "\n    1: Exception has been thrown by the target of an invocation: Kernel..ctor()" ++
        "\n    2: hollow" := by
  intro bridge
  obtain ⟨_, _, nests⟩ := reports_show_chains
  have outer : bridge.react (.create "Shell" [] .owning) =
      .begun (.construction ⟨shell, "Shell..ctor()", shellBody⟩ .owning) bridge := rfl
  have inner : bridge.react (.create "Kernel" [] .owning) =
      .begun (.construction ⟨kernel, "Kernel..ctor()", .fault (.plain "hollow")⟩ .owning)
        bridge := rfl
  have unwinds : Frame.Unwinds "Kernel..ctor()" (.plain "hollow") 1
      [("Shell..ctor()", "no kernel")]
      (.construction ⟨shell, "Shell..ctor()", shellBody⟩ .owning) bridge bridge :=
    .passed rfl .refl rfl inner (.raised rfl .refl rfl) .refl rfl
  obtain ⟨asked, reportEq⟩ := nests 1 _ _ _ _ _ _ _ _ outer unwinds
  exact ⟨_, asked, reportEq.trans (by decide +kernel)⟩

end Failure

end ObjectBridge
