import ObjectBridge.Proofs.Bridge.Outcomes
import ObjectBridge.Proofs.Mode.Machines
import ObjectBridge.Proofs.Mode.Runs

/-!
# Modes cannot be observed without a collection

Hosts that make the same calls, but ask for owning handles where others ask for weak
ones, on types whose bodies do as well, cannot tell from anything a bridge answers or
shows, as long as nothing is collected: neither after a call nor in the middle of one.
-/

namespace ObjectBridge

/-! ## Calls -/

/-- Calls of a host that differ only in the mode of the handle that they ask for. -/
inductive HostCall.SameButModes : HostCall → HostCall → Prop
  | same (call : HostCall) : SameButModes call call
  | create (typeName : String) (arguments : List Value) (mode otherMode : HandleMode) :
      SameButModes (.create typeName arguments mode) (.create typeName arguments otherMode)
  | exportCreate (memory : Memory) (typeName : InteropString) (weak otherWeak : Bool)
      (buffers : ArgumentBuffers) :
      SameButModes (.exportCreate memory (some ⟨typeName, weak, buffers⟩))
        (.exportCreate memory (some ⟨typeName, otherWeak, buffers⟩))

private theorem Bridge.SameButModes.fail {first second : Bridge}
    (same : first.SameButModes second) (site : String) (error : BridgeError) :
    (first.fail site error).SameButModes (second.fail site error) := by
  have told := same.tell (.exportFailed site error)
  simp only [Bridge.fail, Bridge.report, told.reports_eq]
  split
  · exact ⟨told.registry, told.calls_eq, told.store, rfl, told.drawn_eq⟩
  · exact told.tell _

private theorem sameButModes_answer {α : Type} (site : String) (fallback : α)
    (outcome : Except BridgeError α) :
    Run.SameButModes (Bridge.answer site fallback outcome)
      (Bridge.answer site fallback outcome) := by
  refine .modifyGet (fun bridge => ?_) fun same => ?_
  · cases outcome with
    | ok answer => rfl
    | error error =>
        obtain ⟨_, storeEq⟩ := bridge.fail_store site error
        exact congrArg (fun store => store.heap.collections) storeEq
  · cases outcome with
    | ok answer => exact ⟨rfl, same⟩
    | error error => exact ⟨rfl, same.fail site error⟩

private theorem Bridge.SameButModes.setListener {first second : Bridge}
    (same : first.SameButModes second) (listener : Option Listener) :
    (first.setListener listener).1 = (second.setListener listener).1 ∧
      (first.setListener listener).2.SameButModes (second.setListener listener).2 := by
  simp only [Bridge.setListener, same.reports_eq]
  exact ⟨trivial, same.registry, same.calls_eq, same.store, rfl, same.drawn_eq⟩

variable {services : Services}

/-- The same call does the same to bridges that are the same but for modes. -/
theorem Services.IgnoreModes.closed (ignore : services.IgnoreModes) :
    services.Closed fun _ run => run.SameButModes run where
  pure := .pure
  bind := .bind
  create typeName arguments mode := ignore.create typeName arguments mode mode
  invoke := ignore.invoke
  destroy := sameButModes_destroy
  tell event := .modifyGet (fun _ => rfl) fun same => ⟨rfl, same.tell event⟩
  answer := sameButModes_answer
  setListener listener := .modifyGet (fun _ => rfl) fun same => same.setListener listener

/-- All that a request takes from whether it asks for a weak handle is its mode. -/
private theorem CreateRequest.read_eq_map (memory : Memory) (typeName : InteropString)
    (weak : Bool) (buffers : ArgumentBuffers) :
    read memory (some ⟨typeName, weak, buffers⟩) =
      (read memory (some ⟨typeName, false, buffers⟩)).map fun request =>
        { request with mode := .ofWeak weak } := by
  have argumentsEq : CreateInfo.arguments memory ⟨typeName, weak, buffers⟩ =
      CreateInfo.arguments memory ⟨typeName, false, buffers⟩ := rfl
  simp only [read, argumentsEq]
  cases typeName.text with
  | error cause => rfl
  | ok name =>
      cases CreateInfo.arguments memory ⟨typeName, false, buffers⟩ with
      | error cause => rfl
      | ok arguments => rfl

private theorem readRequest_eq_map (memory : Memory) (typeName : InteropString) (weak : Bool)
    (buffers : ArgumentBuffers) :
    Bridge.readRequest memory (some ⟨typeName, weak, buffers⟩) =
      (Bridge.readRequest memory (some ⟨typeName, false, buffers⟩) >>= fun read =>
        pure (read.map fun request => { request with mode := .ofWeak weak })) := by
  simp only [Bridge.readRequest, CreateRequest.read_eq_map memory typeName weak]
  cases CreateRequest.read memory (some ⟨typeName, false, buffers⟩) with
  | error error => rfl
  | ok request =>
      have dropsEq : CreateInfo.dropsArguments ⟨typeName, weak, buffers⟩ =
          CreateInfo.dropsArguments ⟨typeName, false, buffers⟩ := rfl
      simp only [Except.map, dropsEq]
      split <;> rfl

theorem HostCall.SameButModes.perform (ignore : services.IgnoreModes) {call other : HostCall}
    (same : call.SameButModes other) :
    Run.SameButModes (call.perform services) (other.perform services) := by
  cases same with
  | same call => exact ignore.closed.perform call
  | create typeName arguments mode otherMode =>
      exact (ignore.create typeName arguments mode otherMode).bind fun outcome => .pure _
  | exportCreate memory typeName weak otherWeak buffers =>
      refine .bind ?_ fun raw => .pure _
      simp only [Bridge.exportCreateWith, readRequest_eq_map memory typeName weak,
        readRequest_eq_map memory typeName otherWeak, bind_assoc, pure_bind]
      refine (ignore.closed.readRequest memory _).bind fun request => ?_
      cases request with
      | error error => exact sameButModes_answer _ _ _
      | ok request =>
          exact (ignore.create _ _ _ _).bind fun outcome => sameButModes_answer _ _ _

theorem Request.SameButModes.ask (ignore : services.IgnoreModes) {request other : Request}
    (same : request.SameButModes other) :
    Run.SameButModes (request.ask services) (other.ask services) := by
  cases same with
  | create typeName arguments mode otherMode =>
      exact (ignore.create typeName arguments mode otherMode).bind fun outcome => .pure _
  | invoke token method arguments =>
      exact (ignore.invoke token method arguments).bind fun outcome => .pure _
  | destroy token => exact (sameButModes_destroy token).bind fun outcome => .pure _
  | collect => exact .collect fun summary => .pure _

/-! ## What hosts can tell -/

/-- Bridges that look the same: in the books of the heap, in the number of live handles, in
the reports, in the state of every object, in the states that were reclaimed, and in where
tokens lead. -/
structure Bridge.Resembles (first second : Bridge) : Prop where
  statistics_eq : first.statistics = second.statistics
  liveHandles_eq : first.liveHandles = second.liveHandles
  reports_eq : first.reports = second.reports
  state_eq : ∀ id, (first.store.heap.content? id).map Prod.snd =
    (second.store.heap.content? id).map Prod.snd
  dropped_eq : first.store.dropped = second.store.dropped
  resolve_eq : ∀ token, (first.resolve token).map (fun object => (object.id, object.state)) =
    (second.resolve token).map fun object => (object.id, object.state)

theorem Bridge.SameButModes.resembles {first second : Bridge} (same : first.SameButModes second) :
    first.Resembles second where
  statistics_eq := by
    have ledgers := congrArg Heap.statistics same.store.ledger_eq
    exact ledgers
  liveHandles_eq := by
    have tables := congrArg HandleTable.live same.store.handles_eq
    exact tables
  reports_eq := same.reports_eq
  state_eq id := by
    have alike := same.store.content id
    generalize first.store.heap.content? id = left at alike ⊢
    generalize second.store.heap.content? id = right at alike ⊢
    cases alike with
    | none => rfl
    | some here => exact congrArg some here.state_eq
  dropped_eq := same.store.dropped_eq
  resolve_eq token := by
    rcases (same.resolve token).error_or_ok with
      ⟨cause, firstEq, secondEq⟩ | ⟨object, other, firstEq, secondEq, objects⟩
    · rw [firstEq, secondEq]
    · rw [firstEq, secondEq]
      exact congrArg Except.ok (Prod.ext objects.id_eq objects.state_eq)

/-- Machines that look the same: their bridges do, as many bodies are in progress, the
innermost of which ask for the same but for modes, and any request gets the same answer
from both, in whatever modes, and leaves bridges that look the same if it collects
nothing. -/
structure Machine.Resembles (first second : Machine) : Prop where
  bridge : first.bridge.Resembles second.bridge
  depth_eq : first.frames.length = second.frames.length
  asks : ∀ request, Asks first.frames request →
    ∃ other, request.SameButModes other ∧ Asks second.frames other
  answers : ∀ (depth : Nat) (request other : Request) (answer : Answer) (after : Bridge),
    request.SameButModes other →
    request.ask (Bridge.services depth) first.bridge = .ok (answer, after) →
    after.statistics.collections = 0 →
    ∃ last, other.ask (Bridge.services depth) second.bridge = .ok (answer, last) ∧
      after.Resembles last

theorem Machine.SameButModes.resembles {first second : Machine}
    (same : first.SameButModes second) : first.Resembles second where
  bridge := same.bridge.resembles
  depth_eq := same.frames.length_eq
  asks request asks := same.asks asks
  answers depth request other answer after asked performed uncollected := by
    obtain ⟨last, otherPerformed, lastSame⟩ :=
      (asked.ask (Bridge.services_ignoreModes depth)).follows same.bridge performed uncollected
    exact ⟨last, otherPerformed, lastSame.resembles⟩

/-- Bridges that look the same, and so do the machines that they are after any number of
steps, in the middle of bodies or at their ends, if they are asked for the same but for
modes and nothing was collected until then.  What the steps did has the same effects. -/
structure Bridge.KeepsStep (first second : Bridge) : Prop where
  resembles : first.Resembles second
  proceeds : ∀ (request other : Request) (steps : Nat), request.SameButModes other →
    (Machine.proceed request steps ⟨first, []⟩).2.bridge.statistics.collections = 0 →
    (Machine.proceed request steps ⟨first, []⟩).1.map Effect.owning =
        (Machine.proceed other steps ⟨second, []⟩).1.map Effect.owning ∧
      (Machine.proceed request steps ⟨first, []⟩).2.Resembles
        (Machine.proceed other steps ⟨second, []⟩).2

theorem Bridge.SameButModes.keepsStep {first second : Bridge}
    (same : first.SameButModes second) : first.KeepsStep second where
  resembles := same.resembles
  proceeds request other steps asked uncollected := by
    have start : Machine.SameButModes ⟨first, []⟩ ⟨second, []⟩ := ⟨same, .nil⟩
    obtain ⟨historyEq, machines⟩ := start.proceed asked steps uncollected
    exact ⟨historyEq, machines.resembles⟩

/-! ## Runs of a host -/

/-- Bridges without objects are the same but for modes if the types that they know are. -/
theorem Bridge.sameButModes_new {registry other : TypeRegistry}
    (registries : registry.SameButModes other) (options : BridgeOptions) (table : CallTable) :
    ({ new options registry with calls := table } : Bridge).SameButModes
      { new options other with calls := table } where
  registry := registries
  calls_eq := rfl
  store := Store.sameButModes_empty options.gcThreshold
  reports_eq := rfl
  drawn_eq := rfl

namespace Operation

variable {calls others : List HostCall} {bridge after : Bridge} {responses : List Response}

/-- A run that ends got somewhere with the calls up to any of them, and went on from there
with the others. -/
theorem exists_performAll_take
    (performed : performAll services (calls.map call) bridge = .ok (responses, after))
    (count : Nat) :
    ∃ middle,
      performAll services ((calls.take count).map call) bridge =
        .ok (responses.take count, middle) ∧
      performAll services ((calls.drop count).map call) middle =
        .ok (responses.drop count, after) := by
  induction calls generalizing bridge responses count with
  | nil =>
      cases performed
      rw [List.take_nil, List.take_nil, List.drop_nil, List.drop_nil]
      exact ⟨after, rfl, rfl⟩
  | cons asked rest ih =>
      cases count with
      | zero => exact ⟨bridge, rfl, performed⟩
      | succ count =>
          obtain ⟨response, next, askedRan, restRan⟩ := Run.bind_eq_ok_iff.mp performed
          obtain ⟨later, last, laterRan, gathered⟩ := Run.bind_eq_ok_iff.mp restRan
          cases gathered
          obtain ⟨middle, early, late⟩ := ih laterRan count
          exact ⟨middle, Run.bind_eq_ok_iff.mpr
            ⟨response, next, askedRan, Run.bind_eq_ok_iff.mpr ⟨_, middle, early, rfl⟩⟩, late⟩

/-- Calls that differ only in modes do the same to bridges that are the same but for modes. -/
theorem sameButModes_performAll (ignore : services.IgnoreModes)
    (same : List.Forall₂ HostCall.SameButModes calls others) :
    Run.SameButModes (performAll services (calls.map call))
      (performAll services (others.map call)) := by
  induction same with
  | nil => exact .pure _
  | cons here _ ih =>
      exact (here.perform ignore).bind fun response => ih.bind fun responses => .pure _

/-- Modes cannot be observed without a collection.  If a host makes calls and nothing is
collected, another that makes the same calls in any other modes, on types whose bodies
create objects in any other modes, gets the same responses.  After every call, and in the
middle of the next one, however deep its bodies nest, the books, the live handles, the
reports, the states of all objects and the answers to all that is asked for are the same. -/
theorem modes_unobservable {registry other : TypeRegistry} {depth : Nat}
    (registries : registry.SameButModes other)
    (same : List.Forall₂ HostCall.SameButModes calls others) (options : BridgeOptions)
    (table : CallTable)
    (performed : performAll (Bridge.services depth) (calls.map call)
      { Bridge.new options registry with calls := table } = .ok (responses, after))
    (uncollected : after.statistics.collections = 0) :
    (∃ last, performAll (Bridge.services depth) (others.map call)
      { Bridge.new options other with calls := table } = .ok (responses, last)) ∧
    ∀ count, ∃ middle otherMiddle,
      performAll (Bridge.services depth) ((calls.take count).map call)
        { Bridge.new options registry with calls := table } =
          .ok (responses.take count, middle) ∧
      performAll (Bridge.services depth) ((others.take count).map call)
        { Bridge.new options other with calls := table } =
          .ok (responses.take count, otherMiddle) ∧
      middle.KeepsStep otherMiddle := by
  have ignore := Bridge.services_ignoreModes depth
  have start := Bridge.sameButModes_new registries options table
  constructor
  · obtain ⟨last, otherPerformed, _⟩ :=
      (sameButModes_performAll ignore same).follows start performed uncollected
    exact ⟨last, otherPerformed⟩
  · intro count
    obtain ⟨middle, early, late⟩ := exists_performAll_take performed count
    have hosted := hosted_performAll (Bridge.services_faithful depth) ((calls.drop count).map call)
    obtain ⟨otherMiddle, otherEarly, middleSame⟩ :=
      (sameButModes_performAll ignore (List.forall₂_take count same)).follows start early
        (hosted.uncollected late uncollected)
    exact ⟨middle, otherMiddle, early, otherEarly, middleSame.keepsStep⟩

/-- A type whose objects note that they are warm. -/
def egg : TypeDescriptor where
  name := "Egg"
  constructors := [⟨[], fun _ => .done ⟨"Egg", [.bool false]⟩⟩]
  methods := [⟨"Warm", [], fun _ _ => .write ⟨"Egg", [.bool true]⟩ (.done none)⟩]

/-- A type whose constructor makes an egg in a mode and warms it. -/
def hen (mode : HandleMode) : TypeDescriptor where
  name := "Hen"
  constructors := [⟨[], fun _ => .create "Egg" [] mode fun _ =>
    .invoke (.ofSlot 0 0) "Warm" [] fun _ => .done ⟨"Hen", []⟩⟩]
  methods := []

/-- A registry with eggs and hens. -/
def henhouse (mode : HandleMode) : TypeRegistry := ⟨[], [("Egg", egg), ("Hen", hen mode)]⟩

private theorem henhouse_same : (henhouse .owning).SameButModes (henhouse .weak) := by
  have eggs : egg.Related Program.SameButModes egg :=
    ⟨rfl, .cons ⟨rfl, fun _ => .done _⟩ .nil,
      .cons ⟨rfl, rfl, fun _ _ => .write _ (.done _)⟩ .nil⟩
  have hens : (hen .owning).Related Program.SameButModes (hen .weak) :=
    ⟨rfl, .cons ⟨rfl, fun _ => .create _ _ _ _ fun _ => .invoke _ _ _ fun _ => .done _⟩ .nil,
      .nil⟩
  intro name
  simp only [henhouse, TypeRegistry.findType?, List.lookup_cons, List.lookup_nil]
  split
  · exact .some eggs
  · split
    · exact .some hens
    · exact .none

/-- Where all handles are weak, a hen is made as where all are owning.  In the middle of its
constructor its egg is there, and the handle of the egg leads to it and is released as an
owning one is. -/
theorem modes_unobservable_henhouse :
    let create : HostCall := .create "Hen" [] .weak
    let destroy : HostCall := .destroy (.ofSlot 0 0)
    let start : Bridge := .new .defaults (henhouse .weak)
    (∃ last, performAll (Bridge.services 2) [.call create, .call destroy] start =
      .ok ([.created (.ok (some (.ofSlot 1 0))), .destroyed (.ok ())], last)) ∧
    (Machine.proceed (.create "Hen" [] .weak) 4 ⟨start, []⟩).2.bridge.statistics =
      ⟨1, 1, 0, 0⟩ := by
  intro create destroy start
  have same : List.Forall₂ HostCall.SameButModes [.create "Hen" [] .owning, destroy]
      [create, destroy] :=
    .cons (.create _ _ _ _) (.cons (.same _) .nil)
  have performed : performAll (Bridge.services 2)
      ([.create "Hen" [] .owning, destroy].map call)
      { Bridge.new .defaults (henhouse .owning) with calls := .empty } =
        .ok ([.created (.ok (some (.ofSlot 1 0))), .destroyed (.ok ())], _) := rfl
  obtain ⟨ended, steps⟩ :=
    modes_unobservable henhouse_same same .defaults .empty performed rfl
  obtain ⟨middle, otherMiddle, early, otherEarly, keeps⟩ := steps 0
  cases early
  cases otherEarly
  have inside := (keeps.proceeds (.create "Hen" [] .owning) (.create "Hen" [] .weak) 4
    (.create _ _ _ _) (by decide +kernel)).2.bridge.statistics_eq
  exact ⟨ended, inside.symm.trans (by decide +kernel)⟩

end Operation

end ObjectBridge
