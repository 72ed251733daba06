import ObjectBridge.Proofs.Bridge.Agreement

/-!
# The books of the heap

What the heap has allocated and collected is counted in several places: the objects that it
refers to, the two totals, the number of collections, and the outcome of each collection,
which may come in the middle of a body or at the beginning of an allocation.  Every change
of a store is an entry, and whatever the entries are, the counts agree with them.
-/

namespace ObjectBridge

namespace Store

/-! ## Entries -/

/-- A change of a store: the store before it, and its effect. -/
structure Entry where
  store : Store
  effect : Effect

/-- The outcome of the collection that the change makes, asked for or due. -/
def Entry.cycle? (entry : Entry) : Option CollectSummary :=
  if entry.effect.collects then some entry.store.collect.1 else none

/-- The collections among the changes, latest first. -/
def cycles (entries : List Entry) : List CollectSummary := entries.filterMap Entry.cycle?

/-- The objects that the changes allocate, latest first. -/
def allocations (entries : List Entry) : List ObjectId :=
  entries.filterMap (·.effect.allocated?)

/-- Changes of a store in order, entered latest first.  The host keeps references and gives
them up in between. -/
inductive Course (first : Store) : List Entry → Store → Prop
  | refl : Course first [] first
  | changed {entries : List Entry} {middle last : Store} {effect : Effect} :
      Course first entries middle → middle.Change effect last →
      Course first (⟨middle, effect⟩ :: entries) last
  | kept {entries : List Entry} {store : Store} (id : ObjectId) :
      Course first entries store → Course first entries (store.keep id)
  | gaveUp {entries : List Entry} {store : Store} (id : ObjectId) :
      Course first entries store → Course first entries (store.giveUp id)

end Store

/-- The counts of a heap agree with the changes that its store went through. -/
structure Heap.Balances (heap : Heap) (entries : List Store.Entry) : Prop where
  /-- What was allocated and is not live has been collected. -/
  totalAllocated_eq : heap.statistics.totalAllocated =
    heap.statistics.liveObjects + heap.statistics.totalCollected
  totalCollected_eq : heap.statistics.totalCollected =
    ((Store.cycles entries).map (·.collected)).sum
  collections_eq : heap.statistics.collections = (Store.cycles entries).length
  allocations_eq : heap.statistics.totalAllocated = (Store.allocations entries).length
  /-- A collection loses none of the objects that were live before it. -/
  cycle_eq : ∀ entry ∈ entries, ∀ summary, entry.cycle? = some summary →
    summary.collected + summary.survivors = entry.store.heap.statistics.liveObjects
  /-- Later objects have greater numbers. -/
  increasing : (Store.allocations entries).Pairwise fun later earlier =>
    earlier.number < later.number
  number_lt : ∀ id ∈ Store.allocations entries, id.number < heap.nextNumber
  /-- The heap lists its objects in the order of their allocation. -/
  objects_sublist : heap.objects.Sublist (Store.allocations entries).reverse

/-! ## What a change enters -/

/-- The heap after a collection, if there is one. -/
def Heap.swept (heap : Heap) (collects : Bool) : Heap := if collects then heap.sweep else heap

/-- A collection moves objects from one count to the other. -/
theorem Heap.length_objects_sweep (heap : Heap) :
    heap.garbage.length + heap.sweep.objects.length = heap.objects.length := by
  have split := heap.objects.length_eq_length_filter_add fun id => decide (heap.references id ≤ 1)
  have rest : heap.sweep.objects =
      heap.objects.filter fun id => !decide (heap.references id ≤ 1) := by
    simp only [sweep, ← Nat.not_le, decide_not]
  rw [rest]
  exact split.symm

namespace Store

variable {store after : Store} {effect : Effect} {entries : List Entry}

theorem collected_add_survivors (store : Store) :
    store.collect.1.collected + store.collect.1.survivors = store.heap.statistics.liveObjects :=
  store.heap.length_objects_sweep

theorem books_collect (store : Store) :
    store.collect.2.heap.objects = store.heap.sweep.objects ∧
      store.collect.2.heap.totalCollected = store.heap.sweep.totalCollected := by
  simp only [collect]
  split <;> exact ⟨rfl, rfl⟩

theorem books_allocate {type : TypeDescriptor} {state : ObjectState} {object : HeapObject}
    (allocates : store.allocate type state = (object, after)) :
    after.heap.objects = (store.heap.swept store.heap.isDue).objects ++ [object.id] ∧
      after.heap.totalCollected = (store.heap.swept store.heap.isDue).totalCollected := by
  have readied : store.ready.heap.objects = (store.heap.swept store.heap.isDue).objects ∧
      store.ready.heap.totalCollected = (store.heap.swept store.heap.isDue).totalCollected := by
    rw [ready, Heap.swept]
    split
    · exact store.books_collect
    · exact ⟨rfl, rfl⟩
  rw [allocate_eq] at allocates
  cases allocates
  exact ⟨congrArg (· ++ [_]) readied.1, readied.2⟩

/-- A change takes the garbage from the heap if it collects, and adds the object that it
allocates at the end. -/
theorem Change.objects_eq (change : store.Change effect after) :
    after.heap.objects =
      (store.heap.swept effect.collects).objects ++ effect.allocated?.toList := by
  cases change with
  | told events => exact (List.append_nil _).symm
  | wrote id state => exact (List.append_nil _).symm
  | entered resolved => exact (List.append_nil _).symm
  | left =>
      obtain ⟨_, _, leaveEq⟩ := store.leave_eq
      rw [leaveEq]
      exact (List.append_nil _).symm
  | released released =>
      rw [objects_of_release released]
      exact (List.append_nil _).symm
  | collected => exact store.books_collect.1.trans (List.append_nil _).symm
  | allocated allocates => exact (books_allocate allocates).1
  | issued allocates registered =>
      rw [objects_of_register registered]
      exact (books_allocate allocates).1

theorem Change.totalCollected_eq (change : store.Change effect after) :
    after.heap.totalCollected = (store.heap.swept effect.collects).totalCollected := by
  cases change with
  | told events => rfl
  | wrote id state => rfl
  | entered resolved => rfl
  | left =>
      obtain ⟨_, _, leaveEq⟩ := store.leave_eq
      rw [leaveEq]
      rfl
  | released released =>
      obtain ⟨_, _, _, _, rfl⟩ := exists_of_release released
      rfl
  | collected => exact store.books_collect.2
  | allocated allocates => exact (books_allocate allocates).2
  | issued allocates registered =>
      obtain ⟨_, _, _, rfl⟩ := exists_of_register registered
      exact (books_allocate allocates).2

/-! ## The balance -/

theorem allocations_cons (entry : Entry) (entries : List Entry) :
    allocations (entry :: entries) = entry.effect.allocated?.toList ++ allocations entries := by
  cases allocatedEq : entry.effect.allocated? <;> simp [allocations, allocatedEq]

theorem allocations_append (later earlier : List Entry) :
    allocations (later ++ earlier) = allocations later ++ allocations earlier :=
  List.filterMap_append

theorem cycles_cons (entry : Entry) (entries : List Entry) :
    cycles (entry :: entries) = entry.cycle?.toList ++ cycles entries := by
  cases cycleEq : entry.cycle? <;> simp [cycles, cycleEq]

end Store

namespace Heap

variable {heap : Heap} {entries : List Store.Entry}

theorem balances_empty (threshold : Nat) : (empty threshold).Balances [] where
  totalAllocated_eq := rfl
  totalCollected_eq := rfl
  collections_eq := rfl
  allocations_eq := rfl
  cycle_eq _ member := absurd member List.not_mem_nil
  increasing := .nil
  number_lt _ member := absurd member List.not_mem_nil
  objects_sublist := .slnil

/-- References come and go without an entry. -/
theorem Balances.of_memory (balances : heap.Balances entries) (memory : List HeapObject) :
    { heap with memory }.Balances entries where
  totalAllocated_eq := balances.totalAllocated_eq
  totalCollected_eq := balances.totalCollected_eq
  collections_eq := balances.collections_eq
  allocations_eq := balances.allocations_eq
  cycle_eq := balances.cycle_eq
  increasing := balances.increasing
  number_lt := balances.number_lt
  objects_sublist := balances.objects_sublist

/-- No object is allocated twice. -/
theorem Balances.nodup (balances : heap.Balances entries) :
    (Store.allocations entries).Nodup := by
  refine balances.increasing.imp ?_
  rintro later earlier less rfl
  exact Nat.lt_irrefl _ less

theorem length_objects_swept (heap : Heap) (collects : Bool) :
    (heap.swept collects).objects.length + (heap.swept collects).totalCollected =
      heap.objects.length + heap.totalCollected := by
  cases collects with
  | false => rfl
  | true =>
      have moved := heap.length_objects_sweep
      change heap.sweep.objects.length + (heap.totalCollected + heap.garbage.length) = _
      omega

theorem objects_swept_sublist (heap : Heap) (collects : Bool) :
    (heap.swept collects).objects.Sublist heap.objects := by
  cases collects with
  | false => exact .refl _
  | true => exact List.filter_sublist

end Heap

namespace Store

variable {store after : Store} {effect : Effect} {entries : List Entry}

theorem totalCollected_swept (store : Store) (effect : Effect) :
    (store.heap.swept effect.collects).totalCollected =
      store.heap.totalCollected +
        ((Entry.cycle? ⟨store, effect⟩).toList.map (·.collected)).sum := by
  cases collectsEq : effect.collects <;> simp [Entry.cycle?, collectsEq, Heap.swept]
  rfl

private theorem length_toList {α : Type} (found : Option α) :
    found.toList.length = if found.isSome then 1 else 0 := by
  cases found <;> rfl

private theorem isSome_cycle? (entry : Entry) : entry.cycle?.isSome = entry.effect.collects := by
  cases collectsEq : entry.effect.collects <;> simp [Entry.cycle?, collectsEq]

/-- An object that a change allocates gets a greater number than those before it. -/
private theorem increasing_cons (change : store.Change effect after)
    (increasing : (allocations entries).Pairwise fun later earlier =>
      earlier.number < later.number)
    (numbersLt : ∀ id ∈ allocations entries, id.number < store.heap.nextNumber) :
    (allocations (⟨store, effect⟩ :: entries)).Pairwise (fun later earlier =>
        earlier.number < later.number) ∧
      ∀ id ∈ allocations (⟨store, effect⟩ :: entries), id.number < after.heap.nextNumber := by
  rw [allocations_cons, change.books.nextNumber_eq]
  cases allocatedEq : effect.allocated? with
  | none => exact ⟨increasing, numbersLt⟩
  | some new =>
      obtain rfl := change.allocated?_eq allocatedEq
      refine ⟨List.pairwise_cons.mpr ⟨numbersLt, increasing⟩, ?_⟩
      intro id member
      rcases List.mem_cons.mp member with rfl | earlier
      · exact Nat.lt_succ_self _
      · exact Nat.lt_succ_of_lt (numbersLt id earlier)

/-- A change keeps the books in balance with itself among the entries. -/
theorem Change.balances (change : store.Change effect after)
    (balances : store.heap.Balances entries) :
    after.heap.Balances (⟨store, effect⟩ :: entries) where
  totalAllocated_eq := by
    have moved := store.heap.length_objects_swept effect.collects
    have before : store.heap.totalAllocated =
        store.heap.objects.length + store.heap.totalCollected := balances.totalAllocated_eq
    change after.heap.totalAllocated = after.heap.objects.length + after.heap.totalCollected
    rw [change.books.totalAllocated_eq, change.objects_eq, change.totalCollected_eq,
      List.length_append, length_toList]
    omega
  totalCollected_eq := by
    change after.heap.totalCollected = _
    rw [change.totalCollected_eq, totalCollected_swept, cycles_cons, List.map_append,
      List.sum_append, ← balances.totalCollected_eq]
    exact Nat.add_comm _ _
  collections_eq := by
    change after.heap.collections = _
    rw [change.books.collections_eq, cycles_cons, List.length_append, length_toList,
      isSome_cycle?, ← balances.collections_eq]
    exact Nat.add_comm _ _
  allocations_eq := by
    change after.heap.totalAllocated = _
    rw [change.books.totalAllocated_eq, allocations_cons, List.length_append, length_toList,
      ← balances.allocations_eq]
    exact Nat.add_comm _ _
  cycle_eq entry member summary cycleEq := by
    rcases List.mem_cons.mp member with rfl | earlier
    · obtain ⟨_, summaryEq⟩ := Option.ite_none_right_eq_some.mp cycleEq
      cases summaryEq
      exact store.collected_add_survivors
    · exact balances.cycle_eq entry earlier summary cycleEq
  increasing := (increasing_cons change balances.increasing balances.number_lt).1
  number_lt := (increasing_cons change balances.increasing balances.number_lt).2
  objects_sublist := by
    have reversed : effect.allocated?.toList.reverse = effect.allocated?.toList := by
      cases effect.allocated? <;> rfl
    rw [change.objects_eq, allocations_cons, List.reverse_append, reversed]
    exact ((store.heap.objects_swept_sublist _).trans balances.objects_sublist).append_right _

private theorem heap_keep (store : Store) (id : ObjectId) :
    ∃ memory, (store.keep id).heap = { store.heap with memory } := ⟨_, rfl⟩

private theorem heap_giveUp (store : Store) (id : ObjectId) :
    ∃ memory, (store.giveUp id).heap = { store.heap with memory } := by
  rw [giveUp]
  split <;> exact ⟨_, rfl⟩

/-- What a course makes of the books of a heap, with nothing to show for the references that
the host keeps and gives up. -/
theorem Course.heap_induction {first last : Store} {motive : List Entry → Heap → Prop}
    (course : first.Course entries last) (refl : motive [] first.heap)
    (changed : ∀ entries middle effect last, first.Course entries middle →
      middle.Change effect last → motive entries middle.heap →
      motive (⟨middle, effect⟩ :: entries) last.heap)
    (referred : ∀ entries (heap : Heap) memory, motive entries heap →
      motive entries { heap with memory }) : motive entries last.heap := by
  induction course with
  | refl => exact refl
  | changed before change ih => exact changed _ _ _ _ before change ih
  | kept id _ ih =>
      obtain ⟨memory, heapEq⟩ := heap_keep _ id
      rw [heapEq]
      exact referred _ _ memory ih
  | gaveUp id _ ih =>
      obtain ⟨memory, heapEq⟩ := heap_giveUp _ id
      rw [heapEq]
      exact referred _ _ memory ih

/-- The books balance throughout the course of a store. -/
theorem Course.balances {first last : Store} (course : first.Course entries last)
    (empty : first.heap.Balances []) : last.heap.Balances entries :=
  course.heap_induction (motive := fun entries heap => heap.Balances entries) empty
    (fun _ _ _ _ _ change before => change.balances before)
    fun _ _ memory before => before.of_memory memory

end Store

/-! ## Bodies that end -/

namespace Program

variable {σ α : Type} {body : Program σ α}

theorem immediate?_of_request? {request : Request} (asks : body.request? = some request) :
    body.immediate? = none := by
  cases body with
  | create | invoke | destroy | collect => rfl
  | _ => cases asks

theorem immediate?_of_advance? {save : σ → Bridge → Bridge} {bridge : Bridge}
    {next : Program σ α × Bridge} (advanced : body.advance? save bridge = some next) :
    body.immediate? = none := by
  cases body with
  | write | internalCall | draw => rfl
  | _ => cases advanced

end Program

/-- What a constructor that has come to its end returned, if it is no fault. -/
def Frame.made? : Frame → Option ObjectState
  | construction work _ => work.body.immediate?.bind Except.toOption
  | invocation _ => none

namespace Machine

/-! ## Steps as entries -/

/-- What the innermost body returned, if it is that of a constructor that ends. -/
def made? (machine : Machine) : Option ObjectState := machine.frames.head?.bind Frame.made?

/-- A step of a machine: the machine before it, and its effect. -/
structure Pass where
  machine : Machine
  effect : Effect

/-- The change of the store in a step. -/
def Pass.entry (pass : Pass) : Store.Entry := ⟨pass.machine.bridge.store, pass.effect⟩

/-- Steps of a machine in order, listed latest first.  The host keeps objects that its tokens
lead to and gives them up in between. -/
inductive Course (first : Machine) : List Pass → Machine → Prop
  | refl : Course first [] first
  | step {passes : List Pass} {middle last : Machine} {effect : Effect} :
      Course first passes middle → Step middle effect last →
      Course first (⟨middle, effect⟩ :: passes) last
  | kept {passes : List Pass} {bridge : Bridge} {frames : List Frame} {token : Token}
      {object : HeapObject} :
      Course first passes ⟨bridge, frames⟩ → bridge.resolve token = .ok object →
      Course first passes ⟨{ bridge with store := bridge.store.keep object.id }, frames⟩
  | gaveUp {passes : List Pass} {bridge : Bridge} {frames : List Frame} (id : ObjectId) :
      Course first passes ⟨bridge, frames⟩ →
      Course first passes ⟨{ bridge with store := bridge.store.giveUp id }, frames⟩

/-- Those of the steps before a body ends that were taken while it was in progress, by itself
or by a body that it began: no body below it on the stack took a step since. -/
def Pass.inside (pass : Pass) (earlier : List Pass) : List Pass :=
  earlier.takeWhile fun before => pass.machine.frames.length ≤ before.machine.frames.length

section Steps

variable {first machine after last : Machine} {effect : Effect} {passes : List Pass}

private theorem made?_of_asks {bridge : Bridge} {frames : List Frame} {request : Request}
    (asks : Asks frames request) : made? ⟨bridge, frames⟩ = none := by
  rcases frames with _ | ⟨frame, frames⟩
  · rfl
  · cases frame with
    | construction work mode =>
        have running := Program.immediate?_of_request? asks
        simp [made?, Frame.made?, running]
    | invocation work => rfl

private theorem made?_of_advance? {bridge : Bridge} {frames : List Frame} {frame : Frame}
    {next : Frame × Bridge} (advanced : frame.advance? bridge = some next) :
    made? ⟨bridge, frame :: frames⟩ = none := by
  cases frame with
  | construction work mode =>
      obtain ⟨body, bodyAdvanced, _⟩ := Frame.advance?_construction_eq_some_iff.mp advanced
      have running := Program.immediate?_of_advance? bodyAdvanced
      simp [made?, Frame.made?, running]
  | invocation work => rfl

/-- A step allocates an object exactly if a constructor ends with one. -/
theorem Step.isSome_allocated? (step : Step machine effect after) :
    effect.allocated?.isSome = machine.made?.isSome := by
  cases step with
  | answered asks answered =>
      rw [made?_of_asks asks]
      cases Bridge.answers_of_react answered <;> rfl
  | begun asks begun =>
      rw [made?_of_asks asks]
      rfl
  | advanced advanced =>
      rw [made?_of_advance? advanced]
      rfl
  | @ended bridge _ frames frame _ _ ended =>
      cases frame with
      | construction work mode =>
          simp only [Frame.finish?, Option.map_eq_some_iff] at ended
          obtain ⟨result, bodyEnded, finishes⟩ := ended
          cases finishes
          simp only [made?, Frame.made?, List.head?_cons, Option.bind_some, bodyEnded]
          cases result <;> rfl
      | invocation work =>
          simp only [Frame.finish?, Option.map_eq_some_iff] at ended
          obtain ⟨result, _, finishes⟩ := ended
          cases finishes
          rfl
  | outside storeEq => rfl

theorem Course.store (course : first.Course passes last) :
    first.bridge.store.Course (passes.map Pass.entry) last.bridge.store := by
  induction course with
  | refl => exact .refl
  | step _ step ih => exact ih.changed step.change
  | kept _ _ ih => exact ih.kept _
  | gaveUp id _ ih => exact ih.gaveUp id

theorem Course.isSome_allocated? (course : first.Course passes last) :
    ∀ pass ∈ passes, pass.effect.allocated?.isSome = pass.machine.made?.isSome := by
  induction course with
  | refl => exact fun _ member => absurd member List.not_mem_nil
  | step _ step ih =>
      intro pass member
      rcases List.mem_cons.mp member with rfl | earlier
      · exact step.isSome_allocated?
      · exact ih pass earlier
  | kept _ _ ih => exact ih
  | gaveUp _ _ ih => exact ih

/-- As many objects are allocated as constructors end with one. -/
theorem Course.length_allocations (course : first.Course passes last) :
    (Store.allocations (passes.map Pass.entry)).length =
      passes.countP fun pass => pass.machine.made?.isSome := by
  rw [Store.allocations, List.filterMap_map, List.length_filterMap_eq_countP]
  exact List.countP_congr fun pass member => by
    rw [Function.comp_apply, Pass.entry, course.isSome_allocated? pass member]

/-- What a body allocates has smaller numbers than the object that it ends with. -/
theorem number_lt_of_inside {pass : Pass} {earlier : List Pass} {inner outer : ObjectId}
    (increasing : (Store.allocations (passes.map Pass.entry)).Pairwise fun later earlier =>
      earlier.number < later.number)
    (suffix : pass :: earlier <:+ passes) (allocates : pass.effect.allocated? = some outer)
    (member : inner ∈ Store.allocations ((pass.inside earlier).map Pass.entry)) :
    inner.number < outer.number := by
  obtain ⟨later, rfl⟩ := suffix
  have outerEq : pass.entry.effect.allocated? = some outer := allocates
  rw [List.map_append, List.map_cons, Store.allocations_append, Store.allocations_cons, outerEq,
    Option.toList_some, List.singleton_append] at increasing
  have fromOuter := (List.pairwise_append.mp increasing).2.1
  have before : ((pass.inside earlier).map Pass.entry).Sublist (earlier.map Pass.entry) :=
    (List.takeWhile_sublist _).map Pass.entry
  exact (List.pairwise_cons.mp fromOuter).1 inner ((before.filterMap _).subset member)

end Steps

/-! ## The books -/

/-- Whatever changes a store goes through, its counts agree with them: what was allocated is
live or collected, the totals are those of the collections and allocations, each collection
loses nothing, and numbers grow in the order of allocation.  In a run of a bridge the changes
are its steps, objects are allocated when constructors end with them, and what a
constructor's body allocates has smaller numbers than the object that it ends with. -/
theorem books_balance :
    (∀ (threshold : Nat) (entries : List Store.Entry) (store : Store),
      (Store.empty threshold).Course entries store →
      store.heap.Balances entries ∧ (Store.allocations entries).Nodup) ∧
    ∀ (options : BridgeOptions) (registry : TypeRegistry) (passes : List Pass)
      (machine : Machine), (start options registry).Course passes machine →
      machine.bridge.store.heap.Balances (passes.map Pass.entry) ∧
      (Store.allocations (passes.map Pass.entry)).Nodup ∧
      machine.bridge.statistics.totalAllocated =
        (passes.countP fun pass => pass.machine.made?.isSome) ∧
      ∀ (pass : Pass) (earlier : List Pass) (outer : ObjectId), pass :: earlier <:+ passes →
        pass.effect.allocated? = some outer →
        ∀ inner ∈ Store.allocations ((pass.inside earlier).map Pass.entry),
          inner.number < outer.number := by
  constructor
  · intro threshold entries store course
    have balances := course.balances (Heap.balances_empty threshold)
    exact ⟨balances, balances.nodup⟩
  · intro options registry passes machine course
    have balances := course.store.balances (Heap.balances_empty options.gcThreshold)
    have returned := balances.allocations_eq.trans course.length_allocations
    exact ⟨balances, balances.nodup, returned, fun pass earlier outer suffix allocates inner =>
      number_lt_of_inside balances.increasing suffix allocates⟩

/-- The machine after a number of steps, or when it can go no further, and the steps that it
took, latest first.  The host asks for the same thing over and over. -/
def trace (asked : Request) : Nat → Machine → List Pass × Machine
  | 0, machine => ([], machine)
  | count + 1, machine =>
      let (passes, middle) := trace asked count machine
      match middle.next? asked with
      | some (effect, last) => (⟨middle, effect⟩ :: passes, last)
      | none => (passes, middle)

theorem course_trace (asked : Request) (count : Nat) (machine : Machine) :
    machine.Course (trace asked count machine).1 (trace asked count machine).2 := by
  induction count with
  | zero => exact .refl
  | succ count ih =>
      simp only [trace]
      split
      · rename_i next
        exact ih.step (step_of_next? next)
      · exact ih

/-- A type whose constructor creates two cells that nothing keeps. -/
def wasteful : TypeDescriptor where
  name := "Pair"
  constructors := [⟨[], fun _ =>
    .create "Cell" [] .weak fun _ => .create "Cell" [] .weak fun _ => .done ⟨"Pair", []⟩⟩]
  methods := []

/-- What creating such a pair on a bridge that collects before each allocation but the first
goes through, and where it ends. -/
def wastefulRun : List Pass × Machine :=
  trace (.create "Pair" [] .owning) 6
    (start { BridgeOptions.defaults with gcThreshold := 1 }
      ⟨[], [("Cell", inert), ("Pair", wasteful)]⟩)

/-- The second cell and the pair are each allocated after a collection, which takes the cell
before.  An object that the host keeps outlives a collection, and not the next one. -/
theorem books_balance_wasteful :
    let made := ((Store.empty 0).allocate inert ⟨"Cell", []⟩).2
    (wastefulRun.2.bridge.store.heap.Balances (wastefulRun.1.map Pass.entry) ∧
      wastefulRun.2.bridge.statistics = ⟨1, 3, 2, 2⟩ ∧
      Store.cycles (wastefulRun.1.map Pass.entry) = [⟨1, 0⟩, ⟨1, 0⟩] ∧
      Store.allocations (wastefulRun.1.map Pass.entry) = [⟨3⟩, ⟨2⟩, ⟨1⟩] ∧
      ObjectId.number ⟨2⟩ < ObjectId.number ⟨3⟩) ∧
    ∃ entries, Store.cycles entries = [⟨1, 0⟩, ⟨0, 1⟩] ∧
      (((made.keep ⟨1⟩).collect.2.giveUp ⟨1⟩).collect.2).heap.Balances entries := by
  intro made
  obtain ⟨balances, _, _, nested⟩ :=
    books_balance.2 _ _ wastefulRun.1 wastefulRun.2 (course_trace _ 6 _)
  have allocates : (wastefulRun.1.head (by decide +kernel)).effect.allocated? = some ⟨3⟩ := by
    decide +kernel
  have inside : ⟨2⟩ ∈ Store.allocations
      (((wastefulRun.1.head (by decide +kernel)).inside wastefulRun.1.tail).map Pass.entry) := by
    decide +kernel
  have suffix : wastefulRun.1.head (by decide +kernel) :: wastefulRun.1.tail <:+
      wastefulRun.1 := ⟨[], by rw [List.nil_append, List.cons_head_tail]⟩
  refine ⟨⟨balances, by decide +kernel, by decide +kernel, by decide +kernel,
    nested _ _ _ suffix allocates _ inside⟩, ?_⟩
  have allocated : (Store.empty 0).Course _ made :=
    Store.Course.refl.changed (@Store.Change.allocated _ inert ⟨"Cell", []⟩ _ .weak made rfl)
  have collected := (allocated.kept ⟨1⟩).changed .collected
  have course := (collected.gaveUp ⟨1⟩).changed .collected
  exact ⟨_, rfl, (books_balance.1 _ _ _ course).1⟩

end Machine

end ObjectBridge
