import ObjectBridge.Bridge.Run

/-!
# Runs step by step

A run of a body tells what comes of it, not what the bridge went through.  Here
a bridge is a machine: the bodies in progress are frames on a stack, the
innermost of which asks for something, goes on by itself or ends, and a host
asks when no body is in progress.  Every state in between is a state of the
machine, so what holds of all its reachable states holds in the middle of every
body, however deep.
-/

namespace ObjectBridge

/-! ## Requests -/

/-- What a host or a body may ask of a bridge. -/
inductive Request where
  | create (typeName : String) (arguments : List Value) (mode : HandleMode)
  | invoke (token : Token) (method : String) (arguments : List Value)
  | destroy (token : Token)
  | collect

/-- What a bridge answers. -/
inductive Answer where
  | created (outcome : Except BridgeError (Option Token))
  | invoked (outcome : Except BridgeError (Option Value))
  | destroyed (outcome : Except BridgeError Unit)
  | collected (summary : CollectSummary)

namespace Program

variable {σ α : Type}

/-- What a body asks for next, if it asks for anything. -/
def request? : Program σ α → Option Request
  | create typeName arguments mode _ => some (.create typeName arguments mode)
  | invoke token method arguments _ => some (.invoke token method arguments)
  | destroy token _ => some (.destroy token)
  | collect _ => some .collect
  | _ => none

/-- How a body goes on with the answer to what it asked for. -/
def resume : Program σ α → Answer → Program σ α
  | create _ _ _ next, .created outcome => next outcome
  | invoke _ _ _ next, .invoked outcome => next outcome
  | destroy _ next, .destroyed outcome => next outcome
  | collect next, .collected summary => next summary
  | body, _ => body

/-- How a body goes on that neither asks for anything nor ends. -/
def advance? (save : σ → Bridge → Bridge) (bridge : Bridge) :
    Program σ α → Option (Program σ α × Bridge)
  | write state rest => some (rest, save state bridge)
  | internalCall className member moduleName next =>
      some (next (bridge.calls.internalCall? className member moduleName), bridge)
  | draw next => some (next (bridge.drawn + 1), { bridge with drawn := bridge.drawn + 1 })
  | _ => none

end Program

/-! ## Frames -/

/-- A body in progress. -/
inductive Frame where
  | construction (work : Bridge.Construction) (mode : HandleMode)
  | invocation (work : Bridge.Invocation)

namespace Frame

/-- The receiver, if the body is that of a method. -/
def receiver? : Frame → Option ObjectId
  | construction _ _ => none
  | invocation work => some work.receiver

/-- What the body asks for next. -/
def request? : Frame → Option Request
  | construction work _ => work.body.request?
  | invocation work => work.body.request?

/-- The frame after the body got an answer. -/
def resume (answer : Answer) : Frame → Frame
  | construction work mode => construction { work with body := work.body.resume answer } mode
  | invocation work => invocation { work with body := work.body.resume answer }

/-- The frame after the body went on by itself. -/
def advance? (bridge : Bridge) : Frame → Option (Frame × Bridge)
  | construction work mode =>
      (work.body.advance? (fun state => nomatch state) bridge).map fun (body, after) =>
        (construction { work with body } mode, after)
  | invocation work =>
      (work.body.advance? (Bridge.setState work.receiver) bridge).map fun (body, after) =>
        (invocation { work with body }, after)

@[simp]
theorem receiver?_resume (frame : Frame) (answer : Answer) :
    (frame.resume answer).receiver? = frame.receiver? := by
  cases frame <;> rfl

section Advance

variable {bridge after : Bridge} {next : Frame}

theorem advance?_construction_eq_some_iff {work : Bridge.Construction} {mode : HandleMode} :
    (construction work mode).advance? bridge = some (next, after) ↔
      ∃ body, work.body.advance? (fun state => nomatch state) bridge = some (body, after) ∧
        next = construction { work with body } mode := by
  rw [Frame.advance?, Option.map_eq_some_iff]
  constructor
  · rintro ⟨⟨body, _⟩, advanced, same⟩
    cases same
    exact ⟨body, advanced, rfl⟩
  · rintro ⟨body, advanced, rfl⟩
    exact ⟨_, advanced, rfl⟩

theorem advance?_invocation_eq_some_iff {work : Bridge.Invocation} :
    (invocation work).advance? bridge = some (next, after) ↔
      ∃ body, work.body.advance? (Bridge.setState work.receiver) bridge = some (body, after) ∧
        next = invocation { work with body } := by
  rw [Frame.advance?, Option.map_eq_some_iff]
  constructor
  · rintro ⟨⟨body, _⟩, advanced, same⟩
    cases same
    exact ⟨body, advanced, rfl⟩
  · rintro ⟨body, advanced, rfl⟩
    exact ⟨_, advanced, rfl⟩

end Advance

end Frame

/-! ## Reactions -/

/-- What a step of the machine does to objects and handles. -/
inductive Effect where
  | quiet
  | collected
  | released (token : Token)
  /-- An object was allocated, after a collection if one was due, and a handle was
  issued for it if there was room. -/
  | allocated (object : ObjectId) (collects : Bool) (mode : HandleMode) (issued : Option Token)
deriving DecidableEq

namespace Effect

/-- Whether the step collects garbage. -/
def collects : Effect → Bool
  | collected => true
  | allocated _ collects _ _ => collects
  | _ => false

/-- The object that the step allocates. -/
def allocated? : Effect → Option ObjectId
  | allocated object _ _ _ => some object
  | _ => none

end Effect

/-- How a bridge reacts to a request. -/
inductive Reaction where
  | answered (answer : Answer) (effect : Effect) (after : Bridge)
  | begun (frame : Frame) (after : Bridge)
  /-- The object's method is running, so the call would wait for itself. -/
  | reentered (object : ObjectId)

namespace Bridge

/-- React to a request. -/
def react (bridge : Bridge) : Request → Reaction
  | .create typeName arguments mode =>
      match bridge.registry.findType? typeName with
      | none => .answered (.created (.ok none)) .quiet (bridge.tell (.typeNotFound typeName))
      | some type =>
          match prepareConstruction type arguments with
          | .error cause => .answered (.created (.error (.dispatch cause))) .quiet bridge
          | .ok work => .begun (.construction work mode) bridge
  | .invoke token method arguments =>
      match bridge.resolve token with
      | .error error => .answered (.invoked (.error error)) .quiet bridge
      | .ok object =>
          match prepareInvocation object method arguments with
          | .error cause => .answered (.invoked (.error (.dispatch cause))) .quiet bridge
          | .ok work =>
              if bridge.store.running.contains work.receiver then .reentered work.receiver
              else .begun (.invocation work) (bridge.enter work.receiver)
  | .destroy token =>
      match bridge.store.release token with
      | .ok store => .answered (.destroyed (.ok ())) (.released token) { bridge with store }
      | .error cause => .answered (.destroyed (.error (.handle cause))) .quiet bridge
  | .collect => .answered (.collected bridge.collect.1) .collected bridge.collect.2

/-- The token of a creation, if it issued one. -/
def issued? : Except BridgeError (Option Token) → Option Token
  | .ok token => token
  | .error _ => none

/-- End a constructor: allocate the object and issue a handle for it. -/
def finishConstruction (bridge : Bridge) (work : Construction) (mode : HandleMode) :
    Except Fault ObjectState → Except BridgeError (Option Token) × Effect × Bridge
  | .error raised => (.error (.invocation work.target raised), .quiet, bridge)
  | .ok state =>
      let (object, allocated) := bridge.allocate work.type state
      let (outcome, after) := allocated.register object mode
      (outcome, .allocated object.id bridge.store.heap.isDue mode (issued? outcome), after)

/-- End a method: it ceases to run. -/
def finishInvocation (bridge : Bridge) (work : Invocation) (result : Except Fault (Option Value)) :
    Except BridgeError (Option Value) × Bridge :=
  (result.mapError (.invocation work.target), bridge.leave)

end Bridge

/-- What becomes of a body that ends. -/
def Frame.finish? (bridge : Bridge) : Frame → Option (Answer × Effect × Bridge)
  | construction work mode =>
      work.body.immediate?.map fun result =>
        let (outcome, effect, after) := bridge.finishConstruction work mode result
        (.created outcome, effect, after)
  | invocation work =>
      work.body.immediate?.map fun result =>
        let (outcome, after) := bridge.finishInvocation work result
        (.invoked outcome, .quiet, after)

/-! ## Steps -/

/-- A bridge and the bodies in progress, innermost first. -/
structure Machine where
  bridge : Bridge
  frames : List Frame

namespace Machine

/-- A bridge without objects that no body runs on. -/
def start (options : BridgeOptions) (registry : TypeRegistry) : Machine :=
  ⟨.new options registry, []⟩

/-- The receivers of the calls in progress, innermost first. -/
def receivers (frames : List Frame) : List ObjectId := frames.filterMap Frame.receiver?

/-- Whether a request is made: by the innermost body, or by the host if no body is
in progress. -/
def Asks : List Frame → Request → Prop
  | [], _ => True
  | frame :: _, request => frame.request? = some request

/-- Give an answer to whoever asked for it. -/
def resume (answer : Answer) : List Frame → List Frame
  | [] => []
  | frame :: frames => frame.resume answer :: frames

@[simp]
theorem receivers_resume (answer : Answer) (frames : List Frame) :
    receivers (resume answer frames) = receivers frames := by
  cases frames with
  | nil => rfl
  | cons frame frames => simp [receivers, resume, List.filterMap_cons]

/-- One step. -/
inductive Step : Machine → Effect → Machine → Prop
  | answered {bridge after : Bridge} {frames : List Frame} {request : Request}
      {answer : Answer} {effect : Effect} :
      Asks frames request → bridge.react request = .answered answer effect after →
      Step ⟨bridge, frames⟩ effect ⟨after, resume answer frames⟩
  | begun {bridge after : Bridge} {frames : List Frame} {request : Request} {frame : Frame} :
      Asks frames request → bridge.react request = .begun frame after →
      Step ⟨bridge, frames⟩ .quiet ⟨after, frame :: frames⟩
  | advanced {bridge after : Bridge} {frames : List Frame} {frame next : Frame} :
      frame.advance? bridge = some (next, after) →
      Step ⟨bridge, frame :: frames⟩ .quiet ⟨after, next :: frames⟩
  | ended {bridge after : Bridge} {frames : List Frame} {frame : Frame} {answer : Answer}
      {effect : Effect} :
      frame.finish? bridge = some (answer, effect, after) →
      Step ⟨bridge, frame :: frames⟩ effect ⟨after, resume answer frames⟩
  /-- The host does something that concerns neither objects nor handles. -/
  | outside {bridge after : Bridge} {events : Array Event} :
      after.store = { bridge.store with journal := bridge.store.journal ++ events } →
      Step ⟨bridge, []⟩ .quiet ⟨after, []⟩

/-- Steps in order.  The history has their effects, latest first. -/
inductive Reaches (first : Machine) : List Effect → Machine → Prop
  | refl : Reaches first [] first
  | tail {history : List Effect} {middle last : Machine} {effect : Effect} :
      Reaches first history middle → Step middle effect last →
      Reaches first (effect :: history) last

theorem Reaches.trans {first middle last : Machine} {before after : List Effect}
    (early : Reaches first before middle) (late : Reaches middle after last) :
    Reaches first (after ++ before) last := by
  induction late with
  | refl => exact early
  | tail _ step ih => exact ih.tail step

theorem Reaches.single {first last : Machine} {effect : Effect} (step : Step first effect last) :
    Reaches first [effect] last :=
  .tail .refl step

/-! ## Computing steps -/

/-- The step with which the machine reacts to a request. -/
def react? (machine : Machine) (request : Request) : Option (Effect × Machine) :=
  match machine.bridge.react request with
  | .answered answer effect after => some (effect, ⟨after, resume answer machine.frames⟩)
  | .begun frame after => some (.quiet, ⟨after, frame :: machine.frames⟩)
  | .reentered _ => none

/-- The next step of the machine, on a request of the host if no body is in
progress. -/
def next? (asked : Request) (machine : Machine) : Option (Effect × Machine) :=
  match machine.frames with
  | [] => machine.react? asked
  | frame :: frames =>
      match frame.request? with
      | some request => machine.react? request
      | none =>
          match frame.advance? machine.bridge with
          | some (next, after) => some (.quiet, ⟨after, next :: frames⟩)
          | none =>
              (frame.finish? machine.bridge).map fun (answer, effect, after) =>
                (effect, ⟨after, resume answer frames⟩)

private theorem step_of_react? {machine last : Machine} {request : Request} {effect : Effect}
    (asks : Asks machine.frames request) (reacts : machine.react? request = some (effect, last)) :
    Step machine effect last := by
  rw [react?] at reacts
  split at reacts
  · rename_i answered
    cases reacts
    exact .answered asks answered
  · rename_i begun
    cases reacts
    exact .begun asks begun
  · contradiction

theorem step_of_next? {machine last : Machine} {asked : Request} {effect : Effect}
    (next : machine.next? asked = some (effect, last)) : Step machine effect last := by
  rcases machine with ⟨bridge, _ | ⟨frame, frames⟩⟩
  · exact step_of_react? trivial next
  · simp only [next?] at next
    split at next
    · rename_i request requestEq
      exact step_of_react? requestEq next
    · split at next
      · rename_i advanced
        cases next
        exact .advanced advanced
      · obtain ⟨⟨answer, _, after⟩, ended, lastEq⟩ := Option.map_eq_some_iff.mp next
        cases lastEq
        exact .ended ended

/-- The machine after a number of steps, or when it can go no further, and what it
did, latest first.  The host asks for the same thing over and over. -/
def proceed (asked : Request) : Nat → Machine → List Effect × Machine
  | 0, machine => ([], machine)
  | steps + 1, machine =>
      let (history, middle) := proceed asked steps machine
      match middle.next? asked with
      | some (effect, last) => (effect :: history, last)
      | none => (history, middle)

theorem reaches_proceed (asked : Request) (steps : Nat) (machine : Machine) :
    Reaches machine (proceed asked steps machine).1 (proceed asked steps machine).2 := by
  induction steps with
  | zero => exact .refl
  | succ steps ih =>
      simp only [proceed]
      split
      · rename_i next
        exact ih.tail (step_of_next? next)
      · exact ih

end Machine

end ObjectBridge
