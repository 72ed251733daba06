import ObjectBridge.Proofs.Bridge.Machine
import ObjectBridge.Proofs.Handle.TokenMap
import ObjectBridge.Proofs.Heap.Coherent

/-!
# What a step does to the store

However many ways there are for the machine to go on, there are few for its
store to change.  They are listed here once, with the effect that each has, and
what every change keeps or brings about is proved of the list.
-/

namespace ObjectBridge

namespace Store

variable {store after : Store} {effect : Effect} {id : ObjectId}

/-- A change of the store and its effect. -/
inductive Change (store : Store) : Effect → Store → Prop
  | told (events : Array Event) :
      Change store .quiet { store with journal := store.journal ++ events }
  | wrote (id : ObjectId) (state : ObjectState) : Change store .quiet (store.setState id state)
  | entered {token : Token} {id : ObjectId} :
      store.resolveId token = .ok id → Change store .quiet (store.enter id)
  | left : Change store .quiet store.leave
  | released {token : Token} {after : Store} :
      store.release token = .ok after → Change store (.released token) after
  | collected : Change store .collected store.collect.2
  | allocated {type : TypeDescriptor} {state : ObjectState} {object : HeapObject}
      {mode : HandleMode} {after : Store} :
      store.allocate type state = (object, after) →
      Change store (.allocated object.id store.heap.isDue mode none) after
  | issued {type : TypeDescriptor} {state : ObjectState} {object : HeapObject}
      {mode : HandleMode} {token : Token} {unregistered after : Store} :
      store.allocate type state = (object, unregistered) →
      unregistered.register object mode = .ok (token, after) →
      Change store (.allocated object.id store.heap.isDue mode (some token)) after

theorem Change.refl (store : Store) : Change store .quiet store := by
  have told : Change store .quiet { store with journal := store.journal ++ #[] } := .told #[]
  rwa [Array.append_empty] at told

/-! ## What operations leave alone -/

theorem dropCell_eq (store : Store) (cell : Option Cell) :
    ∃ memory dropped, store.dropCell cell =
      { store with heap := { store.heap with memory }, dropped } := by
  rcases cell with _ | ⟨mode, id⟩
  · exact ⟨_, _, rfl⟩
  · cases mode <;> exact ⟨_, _, rfl⟩

theorem addHandle_eq (store : Store) (id : ObjectId) (mode : HandleMode) :
    ∃ memory, store.addHandle id mode = { store with heap := { store.heap with memory } } := by
  cases mode <;> exact ⟨_, rfl⟩

theorem leave_eq (store : Store) :
    ∃ memory dropped, store.leave =
      { store with
        heap := { store.heap with memory }, running := store.running.tail, dropped } := by
  rw [leave]
  split
  · rename_i runningEq
    refine ⟨store.heap.memory, store.dropped, ?_⟩
    have tailEq : store.running.tail = store.running := by rw [runningEq, List.tail_nil]
    rw [tailEq]
  · rename_i id rest runningEq
    refine ⟨(store.heap.dropReferences (· == id)).memory,
      store.dropped ++ store.heap.lostStates (· == id), ?_⟩
    rw [runningEq]
    rfl

theorem exists_of_release {token : Token} (released : store.release token = .ok after) :
    ∃ handles memory dropped, store.handles.release token = .ok handles ∧
      after =
        { store with
          heap := { store.heap with memory }, handles, dropped
          journal := store.journal.push (.released token) } := by
  obtain ⟨handles, cell, tableReleased, _, rfl⟩ := release_eq_ok_iff.mp released
  obtain ⟨memory, dropped, dropEq⟩ :=
    ({ store with handles }.tell (.released token)).dropCell_eq (some cell)
  exact ⟨handles, memory, dropped, tableReleased, dropEq⟩

theorem exists_of_register {object : HeapObject} {mode : HandleMode} {token : Token}
    (registered : store.register object mode = .ok (token, after)) :
    ∃ handles memory, store.handles.register object.id mode = .ok (token, handles) ∧
      after =
        { store with
          heap := { store.heap with memory }, handles
          journal := store.journal.push (.registered mode token object.type.name object.id) } := by
  obtain ⟨handles, tableRegistered, rfl⟩ := register_eq_ok_iff.mp registered
  obtain ⟨memory, addEq⟩ := ({ store with handles } : Store).addHandle_eq object.id mode
  exact ⟨handles, memory, tableRegistered, by rw [addEq]; rfl⟩

/-- What a collection or an allocation does to the books of a heap. -/
structure Books (before after : Heap) (collections allocations : Nat) : Prop where
  nextNumber_eq : after.nextNumber = before.nextNumber + allocations
  totalAllocated_eq : after.totalAllocated = before.totalAllocated + allocations
  collections_eq : after.collections = before.collections + collections

theorem collect_eq (store : Store) :
    ∃ heap dropped events, Books store.heap heap 1 0 ∧
      store.collect.2 = { store with heap, dropped, journal := store.journal ++ events } := by
  have books : Books store.heap (store.heap.sweep.dropReferences store.heap.garbage.contains) 1 0 :=
    ⟨rfl, rfl, rfl⟩
  simp only [collect]
  split
  · exact ⟨_, _, #[], books, by rw [Array.append_empty]; rfl⟩
  · exact ⟨_, _, #[_], books, rfl⟩

theorem ready_eq (store : Store) :
    ∃ heap dropped events, Books store.heap heap (if store.heap.isDue then 1 else 0) 0 ∧
      store.ready = { store with heap, dropped, journal := store.journal ++ events } := by
  rw [ready]
  split
  · exact store.collect_eq
  · exact ⟨store.heap, store.dropped, #[], ⟨rfl, rfl, rfl⟩, by rw [Array.append_empty]⟩

theorem exists_of_allocate {type : TypeDescriptor} {state : ObjectState} {object : HeapObject}
    (allocates : store.allocate type state = (object, after)) :
    ∃ heap dropped events, object.id = ⟨store.heap.nextNumber⟩ ∧
      Books store.heap heap (if store.heap.isDue then 1 else 0) 1 ∧
      after = { store with heap, dropped, journal := store.journal ++ events } := by
  obtain ⟨heap, dropped, events, books, readyEq⟩ := store.ready_eq
  rw [allocate_eq, readyEq] at allocates
  cases allocates
  exact ⟨heap.insert type state, dropped, events, congrArg ObjectId.mk books.nextNumber_eq,
    ⟨congrArg Nat.succ books.nextNumber_eq, congrArg Nat.succ books.totalAllocated_eq,
      books.collections_eq⟩, rfl⟩

/-! ## Objects -/

theorem objects_of_release {token : Token} (released : store.release token = .ok after) :
    after.heap.objects = store.heap.objects := by
  obtain ⟨_, _, _, _, rfl⟩ := exists_of_release released
  rfl

theorem objects_of_register {object : HeapObject} {mode : HandleMode} {token : Token}
    (registered : store.register object mode = .ok (token, after)) :
    after.heap.objects = store.heap.objects := by
  obtain ⟨_, _, _, rfl⟩ := exists_of_register registered
  rfl

/-- An allocation leaves the objects that the collection before it leaves, if one was
due, and adds the new object. -/
theorem Coherent.mem_allocate_iff (coherent : store.Coherent) {type : TypeDescriptor}
    {state : ObjectState} {object : HeapObject}
    (allocates : store.allocate type state = (object, after)) :
    id ∈ after.heap.objects ↔
      (id ∈ store.heap.objects ∧ (store.heap.isDue = true → 0 < store.outside id)) ∨
        object.id = id := by
  rw [allocate_eq] at allocates
  cases allocates
  have readyIff : id ∈ store.ready.heap.objects ↔
      id ∈ store.heap.objects ∧ (store.heap.isDue = true → 0 < store.outside id) := by
    by_cases due : store.heap.isDue = true
    · have memberOf := coherent.counts.mem_of_outside id
      simp only [Store.ready, due, if_true, coherent.mem_collect_iff, true_implies]
      exact ⟨fun positive => ⟨memberOf positive, positive⟩, And.right⟩
    · simp [Store.ready, due]
  rw [← readyIff, eq_comm]
  exact Heap.mem_objects_insert

/-- Only collections take objects from the heap, and they take those that nothing
outside the heap refers to; only allocations add an object. -/
theorem Change.mem_objects_iff (change : Change store effect after) (coherent : store.Coherent) :
    id ∈ after.heap.objects ↔
      (id ∈ store.heap.objects ∧ (effect.collects = true → 0 < store.outside id)) ∨
        effect.allocated? = some id := by
  cases change with
  | told events => simp [Effect.collects, Effect.allocated?]
  | wrote other state => simp [Effect.collects, Effect.allocated?, setState, Heap.setState]
  | entered resolved =>
      simp [Effect.collects, Effect.allocated?, enter, addReference, Heap.addReference]
  | left =>
      obtain ⟨_, _, leaveEq⟩ := store.leave_eq
      simp [Effect.collects, Effect.allocated?, leaveEq]
  | released released =>
      simp [Effect.collects, Effect.allocated?, objects_of_release released]
  | collected =>
      have memberOf := coherent.counts.mem_of_outside id
      simp only [Effect.collects, Effect.allocated?, coherent.mem_collect_iff, true_implies,
        reduceCtorEq, or_false]
      exact ⟨fun positive => ⟨memberOf positive, positive⟩, And.right⟩
  | allocated allocates =>
      simpa [Effect.collects, Effect.allocated?] using coherent.mem_allocate_iff allocates
  | issued allocates registered =>
      rw [objects_of_register registered]
      simpa [Effect.collects, Effect.allocated?] using coherent.mem_allocate_iff allocates

/-! ## Agreement -/

theorem Change.coherent (change : Change store effect after) (coherent : store.Coherent) :
    after.Coherent := by
  cases change with
  | told events => exact ⟨coherent.sound, coherent.counts, coherent.number_lt⟩
  | wrote id state => exact coherent.setState id state
  | entered resolved => exact coherent.enter (coherent.mem_of_resolveId resolved)
  | left => exact coherent.leave
  | released released => exact coherent.release released
  | collected => exact coherent.collect
  | allocated allocates => exact (coherent.allocate allocates).1
  | issued allocates registered =>
      obtain ⟨allocated, member⟩ := coherent.allocate allocates
      exact allocated.register member registered

/-- Steps keep what the host keeps and only add to the journal. -/
theorem Change.grows (change : Change store effect after) :
    after.kept = store.kept ∧ ∃ events, after.journal = store.journal ++ events := by
  cases change with
  | told events => exact ⟨rfl, events, rfl⟩
  | wrote id state => exact ⟨rfl, #[], by simp [setState]⟩
  | entered resolved => exact ⟨rfl, #[], by simp [enter, addReference]⟩
  | left =>
      obtain ⟨_, _, leaveEq⟩ := store.leave_eq
      rw [leaveEq]
      exact ⟨rfl, #[], by simp⟩
  | released released =>
      obtain ⟨_, _, _, _, rfl⟩ := exists_of_release released
      exact ⟨rfl, #[_], rfl⟩
  | collected =>
      obtain ⟨_, _, events, _, collectEq⟩ := store.collect_eq
      rw [collectEq]
      exact ⟨rfl, events, rfl⟩
  | allocated allocates =>
      obtain ⟨_, _, events, _, _, rfl⟩ := exists_of_allocate allocates
      exact ⟨rfl, events, rfl⟩
  | issued allocates registered =>
      obtain ⟨_, _, events, _, _, rfl⟩ := exists_of_allocate allocates
      obtain ⟨_, _, _, rfl⟩ := exists_of_register registered
      exact ⟨rfl, events.push _, Array.push_append⟩

/-- The books of the heap count the collections and the allocations. -/
theorem Change.books (change : Change store effect after) :
    Books store.heap after.heap (if effect.collects then 1 else 0)
      (if effect.allocated?.isSome then 1 else 0) := by
  cases change with
  | told events => exact ⟨rfl, rfl, rfl⟩
  | wrote id state => exact ⟨rfl, rfl, rfl⟩
  | entered resolved => exact ⟨rfl, rfl, rfl⟩
  | left =>
      obtain ⟨_, _, leaveEq⟩ := store.leave_eq
      rw [leaveEq]
      exact ⟨rfl, rfl, rfl⟩
  | released released =>
      obtain ⟨_, _, _, _, rfl⟩ := exists_of_release released
      exact ⟨rfl, rfl, rfl⟩
  | collected =>
      obtain ⟨_, _, _, books, collectEq⟩ := store.collect_eq
      rw [collectEq]
      exact books
  | allocated allocates =>
      obtain ⟨_, _, _, _, books, rfl⟩ := exists_of_allocate allocates
      exact books
  | issued allocates registered =>
      obtain ⟨_, _, _, _, books, rfl⟩ := exists_of_allocate allocates
      obtain ⟨_, _, _, rfl⟩ := exists_of_register registered
      exact ⟨books.nextNumber_eq, books.totalAllocated_eq, books.collections_eq⟩

/-- An object that is allocated gets a number that no object had. -/
theorem Change.allocated?_eq (change : Change store effect after)
    (allocates : effect.allocated? = some id) : id = ⟨store.heap.nextNumber⟩ := by
  cases change with
  | allocated allocated =>
      obtain ⟨_, _, _, idEq, _, _⟩ := exists_of_allocate allocated
      exact (Option.some.inj allocates).symm.trans idEq
  | issued allocated _ =>
      obtain ⟨_, _, _, idEq, _, _⟩ := exists_of_allocate allocated
      exact (Option.some.inj allocates).symm.trans idEq
  | _ => cases allocates

/-! ## Tokens -/

end Store

/-- The map of tokens after a step with an effect. -/
def TokenMap.apply (map : TokenMap) : Effect → TokenMap
  | .released token => map.release token
  | .allocated object _ mode (some token) => map.issue token ⟨mode, object⟩
  | _ => map

/-- The tokens issued and released in a history. -/
def TokenMap.ofHistory : List Effect → TokenMap
  | [] => .empty
  | effect :: history => (ofHistory history).apply effect

/-- Handle tables follow the map of the tokens that were issued and released. -/
theorem Store.Change.represents {store after : Store} {effect : Effect} {map : TokenMap}
    (change : Change store effect after) (represents : store.handles.Represents map)
    (few : map.issued.length < Token.generations) :
    after.handles.Represents (map.apply effect) := by
  cases change with
  | told events => exact represents
  | wrote id state => exact represents
  | entered resolved => exact represents
  | left =>
      obtain ⟨_, _, leaveEq⟩ := store.leave_eq
      rw [leaveEq]
      exact represents
  | released released =>
      obtain ⟨_, _, _, tableReleased, rfl⟩ := exists_of_release released
      exact represents.release few tableReleased
  | collected =>
      obtain ⟨_, _, _, _, collectEq⟩ := store.collect_eq
      rw [collectEq]
      exact represents
  | allocated allocates =>
      obtain ⟨_, _, _, _, _, rfl⟩ := exists_of_allocate allocates
      exact represents
  | issued allocates registered =>
      obtain ⟨_, _, _, _, _, rfl⟩ := exists_of_allocate allocates
      obtain ⟨_, _, tableRegistered, rfl⟩ := exists_of_register registered
      exact (represents.register tableRegistered).2

end ObjectBridge
