import ObjectBridge.Proofs.Bridge.Books

/-!
# Collections on schedule

A heap with a threshold collects by itself.  An allocation does so when as many objects as
the threshold says were allocated since the last collection, and then before its own object
is added; no other allocation does.  The changes that a store went through say which
allocations these are, whoever asked for the collections in between, so they also say how
many collections there are.
-/

namespace ObjectBridge

namespace Store

variable {first store after last : Store} {effect : Effect} {entry : Entry}
  {entries earlier later between : List Entry} {threshold : Nat}

/-- How many objects the changes allocated since the last collection.  A change that
collects and allocates does so in this order. -/
def recent : List Entry → Nat
  | [] => 0
  | entry :: earlier =>
      (if entry.effect.collects then 0 else recent earlier) +
        (if entry.effect.allocated?.isSome then 1 else 0)

/-- The changes did not ask for a collection.  Allocations may have collected. -/
def Unasked (entries : List Entry) : Prop := ∀ entry ∈ entries, entry.effect ≠ .collected

/-! ## What a change does to the counter -/

theorem clock_collect (store : Store) :
    store.collect.2.heap.threshold = store.heap.threshold ∧
      store.collect.2.heap.sinceCollection = 0 := by
  simp only [collect]
  split <;> exact ⟨rfl, rfl⟩

theorem clock_allocate {type : TypeDescriptor} {state : ObjectState} {object : HeapObject}
    (allocates : store.allocate type state = (object, after)) :
    after.heap.threshold = store.heap.threshold ∧
      after.heap.sinceCollection =
        (if store.heap.isDue then 0 else store.heap.sinceCollection) + 1 := by
  rw [allocate_eq, ready] at allocates
  cases allocates
  split
  · exact ⟨store.clock_collect.1, congrArg Nat.succ store.clock_collect.2⟩
  · exact ⟨rfl, rfl⟩

/-- A collection clears the counter, and an allocation counts after that. -/
theorem Change.clock (change : store.Change effect after) :
    after.heap.threshold = store.heap.threshold ∧
      after.heap.sinceCollection =
        (if effect.collects then 0 else store.heap.sinceCollection) +
          (if effect.allocated?.isSome then 1 else 0) := by
  cases change with
  | told events => exact ⟨rfl, rfl⟩
  | wrote id state => exact ⟨rfl, rfl⟩
  | entered resolved => exact ⟨rfl, rfl⟩
  | left =>
      obtain ⟨_, _, leaveEq⟩ := store.leave_eq
      rw [leaveEq]
      exact ⟨rfl, rfl⟩
  | released released =>
      obtain ⟨_, _, _, _, rfl⟩ := exists_of_release released
      exact ⟨rfl, rfl⟩
  | collected => exact store.clock_collect
  | allocated allocates => exact clock_allocate allocates
  | issued allocates registered =>
      obtain ⟨_, _, _, afterEq⟩ := exists_of_register registered
      have allocated := clock_allocate allocates
      rwa [afterEq]

/-- A change that nobody asked a collection of collects exactly if it allocates and a
collection is due. -/
theorem Change.collects_iff (change : store.Change effect after) (unasked : effect ≠ .collected) :
    effect.collects = true ↔ effect.allocated?.isSome = true ∧ store.heap.isDue = true := by
  cases change with
  | collected => exact absurd rfl unasked
  | _ => simp [Effect.collects, Effect.allocated?]

/-! ## Courses -/

/-- A change in a course happens to the store that the changes before it led to. -/
theorem Course.of_suffix (course : first.Course entries last)
    (suffix : entry :: earlier <:+ entries) :
    first.Course earlier entry.store ∧ ∃ after, entry.store.Change entry.effect after := by
  induction course with
  | refl => exact absurd (List.suffix_nil.mp suffix) (List.cons_ne_nil _ _)
  | changed before change ih =>
      rcases List.suffix_cons_iff.mp suffix with same | inside
      · cases same
        exact ⟨before, _, change⟩
      · exact ih inside
  | kept id _ ih => exact ih suffix
  | gaveUp id _ ih => exact ih suffix

/-- The threshold stays, and the counter says how many objects were allocated since the
last collection. -/
theorem Course.clock (course : first.Course entries last) (fresh : first.heap.sinceCollection = 0) :
    last.heap.threshold = first.heap.threshold ∧
      last.heap.sinceCollection = recent entries := by
  refine course.heap_induction (motive := fun entries heap =>
    heap.threshold = first.heap.threshold ∧ heap.sinceCollection = recent entries)
    ⟨rfl, fresh⟩ ?_ fun _ _ _ before => before
  intro entries middle effect last _ change before
  obtain ⟨thresholdEq, counterEq⟩ := change.clock
  rw [thresholdEq, counterEq, before.2, recent]
  exact ⟨before.1, rfl⟩

end Store

namespace Heap

variable {heap : Heap}

/-- The counter does not exceed the threshold, if there is one. -/
def Timely (heap : Heap) : Prop := 0 < heap.threshold → heap.sinceCollection ≤ heap.threshold

/-- A collection is due when the counter has come to the threshold. -/
theorem Timely.isDue_iff (timely : heap.Timely) :
    heap.isDue = true ↔ 0 < heap.threshold ∧ heap.sinceCollection = heap.threshold := by
  rw [isDue, Bool.and_eq_true, decide_eq_true_iff, decide_eq_true_iff]
  refine and_congr_right fun positive => ?_
  have below := timely positive
  omega

end Heap

namespace Store

variable {first store after last : Store} {effect : Effect} {entry : Entry}
  {entries earlier later between : List Entry} {threshold : Nat}

/-- An allocation that would take the counter past the threshold collects first. -/
theorem Change.timely (change : store.Change effect after) (timely : store.heap.Timely) :
    after.heap.Timely := by
  intro positive
  obtain ⟨thresholdEq, counterEq⟩ := change.clock
  rw [thresholdEq] at positive ⊢
  have below := timely positive
  rw [counterEq]
  by_cases collects : effect.collects = true
  · rw [if_pos collects]
    split <;> omega
  · rw [if_neg collects]
    by_cases allocates : effect.allocated?.isSome = true
    · have unasked : effect ≠ .collected := by
        rintro rfl
        exact collects rfl
      have notDue : ¬store.heap.isDue = true := fun due =>
        collects ((change.collects_iff unasked).mpr ⟨allocates, due⟩)
      rw [timely.isDue_iff, not_and] at notDue
      have notFull := notDue positive
      rw [if_pos allocates]
      omega
    · rw [if_neg allocates]
      exact below

theorem Course.timely (course : first.Course entries last) (timely : first.heap.Timely) :
    last.heap.Timely :=
  course.heap_induction (motive := fun _ heap => heap.Timely) timely
    (fun _ _ _ _ _ change before => change.timely before) fun _ _ _ before => before

/-! ## Collections that nobody asks for -/

/-- Between collections that are asked for, the threshold times the number of collections
and the counter together grow by one with each allocation. -/
theorem Change.ledger (change : store.Change effect after) (timely : store.heap.Timely)
    (unasked : effect ≠ .collected) :
    store.heap.threshold * after.heap.collections + after.heap.sinceCollection =
      store.heap.threshold * store.heap.collections + store.heap.sinceCollection +
        effect.allocated?.toList.length := by
  rw [change.clock.2, change.books.collections_eq]
  by_cases collects : effect.collects = true
  · obtain ⟨allocates, due⟩ := (change.collects_iff unasked).mp collects
    obtain ⟨_, fullEq⟩ := timely.isDue_iff.mp due
    obtain ⟨id, allocatedEq⟩ := Option.isSome_iff_exists.mp allocates
    simp only [collects, allocatedEq, Option.isSome_some, if_true, Option.toList_some,
      List.length_singleton, fullEq, Nat.mul_succ, Nat.zero_add]
  · cases allocatedEq : effect.allocated? with
    | none => simp [collects]
    | some id => simp [collects, Nat.add_assoc]

theorem Unasked.of_cons (unasked : Unasked (entry :: entries)) :
    entry.effect ≠ .collected ∧ Unasked entries :=
  ⟨unasked entry (List.mem_cons_self ..), fun other member =>
    unasked other (List.mem_cons_of_mem _ member)⟩

theorem Course.ledger (course : first.Course entries last) (timely : first.heap.Timely)
    (unasked : Unasked entries) :
    last.heap.threshold = first.heap.threshold ∧
      first.heap.threshold * last.heap.collections + last.heap.sinceCollection =
        first.heap.threshold * first.heap.collections + first.heap.sinceCollection +
          (allocations entries).length := by
  refine course.heap_induction (motive := fun entries heap => Unasked entries →
    heap.threshold = first.heap.threshold ∧
      first.heap.threshold * heap.collections + heap.sinceCollection =
        first.heap.threshold * first.heap.collections + first.heap.sinceCollection +
          (allocations entries).length)
    (fun _ => ⟨rfl, rfl⟩) ?_ (fun _ _ _ before => before) unasked
  intro entries middle effect last courseBefore change before unasked
  obtain ⟨notAsked, unaskedBefore⟩ := unasked.of_cons
  obtain ⟨thresholdEq, ledgerEq⟩ := before unaskedBefore
  have stepEq := change.ledger (courseBefore.timely timely) notAsked
  rw [thresholdEq, ledgerEq] at stepEq
  refine ⟨change.clock.1.trans thresholdEq, ?_⟩
  rw [stepEq, allocations_cons, List.length_append, Nat.add_assoc, Nat.add_comm (List.length _)]

/-- After an allocation the counter is not clear until somebody asks for a collection. -/
theorem Course.sinceCollection_pos (course : first.Course entries last) (unasked : Unasked entries)
    (allocates : 0 < (allocations entries).length) : 0 < last.heap.sinceCollection := by
  refine course.heap_induction (motive := fun entries heap => Unasked entries →
    0 < (allocations entries).length → 0 < heap.sinceCollection)
    (fun _ none => absurd none (Nat.lt_irrefl 0)) ?_ (fun _ _ _ before => before) unasked allocates
  intro entries middle effect last _ change before unasked allocates
  obtain ⟨notAsked, unaskedBefore⟩ := unasked.of_cons
  rw [change.clock.2]
  cases allocatedEq : effect.allocated? with
  | some id => exact Nat.lt_add_left _ Nat.zero_lt_one
  | none =>
      have still : ¬effect.collects = true := fun collects => by
        simpa [allocatedEq] using ((change.collects_iff notAsked).mp collects).1
      rw [allocations_cons, allocatedEq] at allocates
      rw [if_neg still]
      exact Nat.lt_add_right _ (before unaskedBefore allocates)

/-- Allocations collect once for every threshold that they fill, the last one apart, which
collects no sooner than another allocation follows. -/
theorem Course.collections_eq (course : first.Course entries last) (timely : first.heap.Timely)
    (positive : 0 < first.heap.threshold) (unasked : Unasked entries)
    (allocates : 0 < (allocations entries).length) :
    last.heap.collections = first.heap.collections +
      (first.heap.sinceCollection + (allocations entries).length - 1) / first.heap.threshold := by
  obtain ⟨thresholdEq, ledgerEq⟩ := course.ledger timely unasked
  have counted := course.sinceCollection_pos unasked allocates
  have below := course.timely timely (thresholdEq ▸ positive)
  rw [thresholdEq] at below
  have remainder : last.heap.sinceCollection - 1 < first.heap.threshold := by omega
  calc last.heap.collections
      = (first.heap.threshold * last.heap.collections + (last.heap.sinceCollection - 1)) /
          first.heap.threshold := by
        rw [Nat.mul_add_div positive, Nat.div_eq_of_lt remainder, Nat.add_zero]
    _ = (first.heap.threshold * first.heap.collections +
          (first.heap.sinceCollection + (allocations entries).length - 1)) /
          first.heap.threshold := by
        congr 1
        omega
    _ = _ := Nat.mul_add_div positive _ _

/-! ## The schedule -/

/-- From a collection on, the allocations are counted, that of the collecting change
included. -/
theorem recent_of_collects (collects : entry.effect.collects = true)
    (still : ∀ other ∈ between, ¬other.effect.collects = true) :
    recent (between ++ entry :: earlier) = (allocations (between ++ [entry])).length := by
  induction between with
  | nil =>
      rw [List.nil_append, recent, if_pos collects, List.nil_append, allocations_cons]
      cases entry.effect.allocated? <;> rfl
  | cons other between ih =>
      have counted := ih fun entry member => still entry (List.mem_cons_of_mem _ member)
      rw [List.cons_append, recent, if_neg (still other (List.mem_cons_self ..)), counted,
        List.cons_append, allocations_cons, List.length_append, Nat.add_comm]
      cases other.effect.allocated? <;> rfl

/-- A store with a threshold collects on schedule: after the changes that it went through,
and whenever an allocation was among them. -/
structure OnSchedule (threshold : Nat) (entries : List Entry) (store : Store) : Prop where
  sinceCollection_eq : store.heap.sinceCollection = recent entries
  recent_le : 0 < threshold → recent entries ≤ threshold
  /-- An allocation collects if the threshold is filled, and no other one does. -/
  collects_iff : ∀ entry earlier, entry :: earlier <:+ entries →
    entry.effect.allocated?.isSome = true →
    (entry.effect.collects = true ↔ 0 < threshold ∧ recent earlier = threshold)
  /-- The next allocation adds its object to what the collection leaves. -/
  allocate_eq : ∀ type state, store.allocate type state =
    let ready := if 0 < threshold ∧ recent entries = threshold then store.collect.2 else store
    (ready.heap.nextObject type state, ready.insert type state)
  /-- From one collection to the next, the threshold is not passed, and it is filled if
  nobody asked for the second one. -/
  gap : ∀ next between entry earlier, next :: (between ++ entry :: earlier) <:+ entries →
    0 < threshold → entry.effect.collects = true → next.effect.collects = true →
    (∀ other ∈ between, ¬other.effect.collects = true) →
    (allocations (between ++ [entry])).length ≤ threshold ∧
      (next.effect ≠ .collected → (allocations (between ++ [entry])).length = threshold)
  /-- Allocations to come collect once for every threshold that they fill. -/
  collections_eq : ∀ later last, store.Course later last → Unasked later → 0 < threshold →
    0 < (allocations later).length →
    last.heap.statistics.collections = store.heap.statistics.collections +
      (recent entries + (allocations later).length - 1) / threshold
  /-- A collection that is asked for begins the count anew. -/
  restarts : ∀ later last, store.collect.2.Course later last → Unasked later → 0 < threshold →
    0 < (allocations later).length →
    last.heap.statistics.collections = store.heap.statistics.collections + 1 +
      ((allocations later).length - 1) / threshold

theorem timely_empty (threshold : Nat) : (empty threshold).heap.Timely := fun _ => Nat.zero_le _

theorem Course.isDue_iff (course : (empty threshold).Course entries store) :
    store.heap.isDue = true ↔ 0 < threshold ∧ recent entries = threshold := by
  obtain ⟨thresholdEq, counterEq⟩ := course.clock rfl
  have timely := course.timely (timely_empty threshold)
  rw [timely.isDue_iff, thresholdEq, counterEq]
  rfl

theorem Course.recent_le (course : (empty threshold).Course entries store)
    (positive : 0 < threshold) : recent entries ≤ threshold := by
  obtain ⟨thresholdEq, counterEq⟩ := course.clock rfl
  have below := course.timely (timely_empty threshold) (thresholdEq ▸ positive)
  rwa [thresholdEq, counterEq] at below

theorem Course.onSchedule (course : (empty threshold).Course entries store) :
    store.OnSchedule threshold entries := by
  obtain ⟨thresholdEq, counterEq⟩ := course.clock rfl
  have timely := course.timely (timely_empty threshold)
  have collectsIff : ∀ entry earlier, entry :: earlier <:+ entries → entry.effect ≠ .collected →
      (entry.effect.collects = true ↔
        entry.effect.allocated?.isSome = true ∧ 0 < threshold ∧ recent earlier = threshold) := by
    intro entry earlier suffix unasked
    obtain ⟨before, _, change⟩ := course.of_suffix suffix
    rw [change.collects_iff unasked, before.isDue_iff]
  refine ⟨counterEq, course.recent_le, ?_, ?_, ?_, ?_, ?_⟩
  · intro entry earlier suffix allocates
    have unasked : entry.effect ≠ .collected := by
      intro asked
      rw [asked] at allocates
      cases allocates
    rw [collectsIff entry earlier suffix unasked, and_iff_right allocates]
  · intro type state
    simp only [allocate, course.isDue_iff]
  · intro next between entry earlier suffix positive collects collectsNext still
    have counted : recent (between ++ entry :: earlier) = _ := recent_of_collects collects still
    obtain ⟨before, _, _⟩ := course.of_suffix suffix
    rw [← counted]
    exact ⟨before.recent_le positive, fun unasked =>
      ((collectsIff next _ suffix unasked).mp collectsNext).2.2⟩
  · intro later last courseLater unasked positive allocates
    have collected := courseLater.collections_eq timely (thresholdEq ▸ positive) unasked allocates
    rwa [thresholdEq, counterEq] at collected
  · intro later last courseLater unasked positive allocates
    obtain ⟨thresholdAfter, counterAfter⟩ := store.clock_collect
    rw [thresholdEq] at thresholdAfter
    have asked : store.Change .collected store.collect.2 := .collected
    have collected := courseLater.collections_eq (asked.timely timely)
      (thresholdAfter ▸ positive) unasked allocates
    rw [thresholdAfter, counterAfter, asked.books.collections_eq, Nat.zero_add] at collected
    exact collected

end Store

namespace Machine

/-- The threshold collector runs on schedule, whatever a store goes through, and so does
that of a bridge, whatever the host asks it and whatever the bodies ask.  As long as nobody
asks for a collection, a bridge that allocated at all has collected once for every threshold
that it filled before its last allocation. -/
theorem collects_on_schedule :
    (∀ (threshold : Nat) (entries : List Store.Entry) (store : Store),
      (Store.empty threshold).Course entries store → store.OnSchedule threshold entries) ∧
    ∀ (options : BridgeOptions) (registry : TypeRegistry) (passes : List Pass)
      (machine : Machine), (start options registry).Course passes machine →
      machine.bridge.store.OnSchedule options.gcThreshold (passes.map Pass.entry) ∧
      (Store.Unasked (passes.map Pass.entry) →
        0 < (Store.allocations (passes.map Pass.entry)).length → 0 < options.gcThreshold →
        machine.bridge.statistics.collections =
          ((Store.allocations (passes.map Pass.entry)).length - 1) / options.gcThreshold) := by
  constructor
  · intro threshold entries store course
    exact course.onSchedule
  · intro options registry passes machine course
    refine ⟨course.store.onSchedule, fun unasked allocates positive => ?_⟩
    have collected := course.store.collections_eq (Store.timely_empty options.gcThreshold)
      positive unasked allocates
    change _ = 0 + (0 + _ - 1) / options.gcThreshold at collected
    rwa [Nat.zero_add, Nat.zero_add] at collected

/-- The fifth of five objects is the second one that waits for a collection, and a collection
that is asked for puts the next one off. -/
theorem collects_on_schedule_pairs :
    let run := trace (.create "Cell" [] .weak) 10
      (start { BridgeOptions.defaults with gcThreshold := 2 } ⟨[], [("Cell", inert)]⟩)
    let asked := run.2.bridge.store.collect.2
    let cell := (asked.allocate inert ⟨"Cell", []⟩).2
    (run.2.bridge.store.OnSchedule 2 (run.1.map Pass.entry) ∧
      (Store.allocations (run.1.map Pass.entry)).length = 5 ∧
      run.2.bridge.statistics.collections = (5 - 1) / 2) ∧
    ∃ entries, cell.OnSchedule 2 entries ∧ Store.recent entries = 1 ∧
      cell.heap.statistics.collections = 3 := by
  intro run asked cell
  have course := course_trace (.create "Cell" [] .weak) 10
    (start { BridgeOptions.defaults with gcThreshold := 2 } ⟨[], [("Cell", inert)]⟩)
  obtain ⟨onSchedule, collected⟩ := collects_on_schedule.2 _ _ _ _ course
  have unasked : Store.Unasked (run.1.map Pass.entry) := by
    unfold Store.Unasked
    decide +kernel
  have allocated : (Store.allocations (run.1.map Pass.entry)).length = 5 := by decide +kernel
  refine ⟨⟨onSchedule, allocated, ?_⟩, ?_⟩
  · rw [← allocated]
    exact collected unasked (allocated ▸ Nat.succ_pos 4) Nat.two_pos
  · have later := (course.store.changed .collected).changed
      (@Store.Change.allocated _ inert ⟨"Cell", []⟩ _ .weak cell rfl)
    refine ⟨_, collects_on_schedule.1 _ _ _ later, ?_, ?_⟩
    all_goals decide +kernel

end Machine

end ObjectBridge
