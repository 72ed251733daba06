import ObjectBridge.Proofs.Heap.Coherent

/-!
# Contents of objects

The contents of an object are its type and its state.  References may come and go
and objects be added without a change to them, as long as the object stays in
memory.
-/

namespace ObjectBridge

namespace Heap

variable {heap : Heap} {id other : ObjectId} {loses : ObjectId → Bool}
  {type : TypeDescriptor} {state : ObjectState}

/-- The type and the state of an object in memory. -/
def content? (heap : Heap) (id : ObjectId) : Option (TypeDescriptor × ObjectState) :=
  (heap.find? id).map fun object => (object.type, object.state)

theorem content?_setState :
    (heap.setState other state).content? id =
      (heap.content? id).map fun content =>
        (content.1, if id = other then state else content.2) := by
  rw [content?, content?, find?_setState]
  cases heap.find? id with
  | none => rfl
  | some object =>
      by_cases atOther : id = other
      · simp [atOther]
      · simp [atOther]

/-- What is found after a state was written is that state, or was there before. -/
theorem content?_of_setState {written : ObjectState}
    (found : (heap.setState other written).content? id = some (type, state)) :
    (id = other ∧ state = written ∧ ∃ earlier, heap.content? id = some (type, earlier)) ∨
      heap.content? id = some (type, state) := by
  rw [content?_setState, Option.map_eq_some_iff] at found
  obtain ⟨⟨_, earlier⟩, before, contentEq⟩ := found
  rw [Prod.mk.injEq] at contentEq
  obtain ⟨rfl, stateEq⟩ := contentEq
  by_cases atOther : id = other
  · rw [if_pos atOther] at stateEq
    exact .inl ⟨atOther, stateEq.symm, earlier, before⟩
  · rw [if_neg atOther] at stateEq
    exact .inr (stateEq ▸ before)

@[simp]
theorem content?_addReference : (heap.addReference other).content? id = heap.content? id := by
  rw [content?, content?, find?_addReference]
  cases heap.find? id with
  | none => rfl
  | some object =>
      by_cases atOther : id = other
      · simp [atOther]
      · simp [atOther]

/-- An object that stays in memory keeps its contents when references go. -/
theorem content?_dropReferences (nodup : (heap.memory.map (·.id)).Nodup)
    (alive : (heap.dropReferences loses).isAlive id = true) :
    (heap.dropReferences loses).content? id = heap.content? id := by
  rw [isAlive, find?_dropReferences nodup] at alive
  rw [content?, content?, find?_dropReferences nodup]
  cases found : heap.find? id with
  | none => simp
  | some object =>
      rw [found] at alive
      by_cases lost : loses id
      · by_cases last : object.references ≤ 1
        · simp [lost, HeapObject.withoutReference?, last] at alive
        · simp [lost, HeapObject.withoutReference?, last]
      · simp [lost]

/-- An object that is found after references went had its contents before. -/
theorem content?_of_dropReferences {content : TypeDescriptor × ObjectState}
    (nodup : (heap.memory.map (·.id)).Nodup)
    (found : (heap.dropReferences loses).content? id = some content) :
    heap.content? id = some content := by
  rw [← found]
  symm
  apply content?_dropReferences nodup
  rw [isAlive, ← Option.isSome_map (f := fun object => (object.type, object.state)), ← content?,
    found, Option.isSome_some]

theorem content?_insert_of_ne (notNew : id ≠ ⟨heap.nextNumber⟩) :
    (heap.insert type state).content? id = heap.content? id := by
  rw [content?, content?, find?_insert_of_ne notNew]

theorem content?_insert_self (fresh : heap.find? ⟨heap.nextNumber⟩ = none) :
    (heap.insert type state).content? ⟨heap.nextNumber⟩ = some (type, state) := by
  rw [content?, find?_insert_self fresh]
  rfl

private theorem find?_of_mem (nodup : (heap.memory.map (·.id)).Nodup) {object : HeapObject}
    (member : object ∈ heap.memory) : heap.find? object.id = some object := by
  have present : (heap.find? object.id).isSome := by
    rw [find?, List.find?_isSome]
    exact ⟨object, member, beq_self_eq_true object.id⟩
  obtain ⟨found, foundEq⟩ := Option.isSome_iff_exists.mp present
  have foundMem : found ∈ heap.memory := List.mem_of_find?_eq_some foundEq
  have same := List.inj_on_of_nodup_map nodup foundMem member (id_eq_of_find? foundEq)
  rw [foundEq, same]

/-- References that go lose no object that something else refers to. -/
theorem lostStates_eq_nil (nodup : (heap.memory.map (·.id)).Nodup)
    (remain : ∀ id, loses id = true → 1 < heap.references id) : heap.lostStates loses = [] := by
  rw [lostStates, List.map_eq_nil_iff, List.filter_eq_nil_iff]
  intro object member lost
  rw [Bool.and_eq_true, decide_eq_true_iff] at lost
  have referencesEq : heap.references object.id = object.references := by
    rw [references, find?_of_mem nodup member]
    rfl
  exact Nat.not_le_of_lt (remain object.id lost.1) (referencesEq ▸ lost.2)

end Heap

namespace Store.Coherent

variable {store after : Store} {loses : ObjectId → Bool}

/-- References that go change the contents of no object if the objects of the heap stay. -/
theorem content?_dropReferences (coherent : store.Coherent) (afterCoherent : after.Coherent)
    (loses : ObjectId → Bool) (heapEq : after.heap = store.heap.dropReferences loses)
    (id : ObjectId) :
    after.heap.content? id = store.heap.content? id := by
  have aliveIff : after.heap.isAlive id = true ↔ store.heap.isAlive id = true := by
    rw [afterCoherent.counts.isAlive_iff, coherent.counts.isAlive_iff, heapEq,
      Heap.objects_dropReferences]
  rw [heapEq] at aliveIff ⊢
  by_cases alive : (store.heap.dropReferences loses).isAlive id = true
  · exact Heap.content?_dropReferences coherent.counts.memory_nodup alive
  · have gone := mt aliveIff.mpr alive
    rw [Heap.isAlive, Option.not_isSome_iff_eq_none] at alive gone
    rw [Heap.content?, Heap.content?, alive, gone]

/-- One reference that goes from outside the heap reclaims no object: the heap still refers
to it. -/
theorem lostStates_eq_nil (coherent : store.Coherent)
    (held : ∀ id, loses id = true → 0 < store.outside id) :
    store.heap.lostStates loses = [] := by
  refine Heap.lostStates_eq_nil coherent.counts.memory_nodup fun id lost => ?_
  have outsidePos := held id lost
  rw [coherent.counts.references_eq, if_pos (coherent.counts.mem_of_outside id outsidePos)]
  omega

/-- The end of a call changes the contents of no object. -/
theorem content?_leave (coherent : store.Coherent) (id : ObjectId) :
    store.leave.heap.content? id = store.heap.content? id := by
  cases runningEq : store.running with
  | nil => rw [Store.leave, runningEq]
  | cons receiver rest =>
      have heapEq : store.leave.heap = store.heap.dropReferences (· == receiver) := by
        rw [Store.leave, runningEq]
        rfl
      exact coherent.content?_dropReferences coherent.leave _ heapEq id

/-- The end of a call reclaims no object. -/
theorem dropped_leave (coherent : store.Coherent) : store.leave.dropped = store.dropped := by
  cases runningEq : store.running with
  | nil => rw [Store.leave, runningEq]
  | cons receiver rest =>
      have held : ∀ id, (id == receiver) = true → 0 < store.outside id := by
        intro id isReceiver
        have running : id ∈ store.running := by
          rw [runningEq, eq_of_beq isReceiver]
          exact List.mem_cons_self
        exact coherent.outside_pos_iff.mpr (.inr (.inl running))
      have droppedEq : store.leave.dropped =
          store.dropped ++ store.heap.lostStates (· == receiver) := by
        rw [Store.leave, runningEq]
        rfl
      rw [droppedEq, coherent.lostStates_eq_nil held, List.append_nil]

/-- The release of a handle changes the contents of no object, and reclaims none. -/
theorem contents_of_release (coherent : store.Coherent) {token : Token}
    (released : store.release token = .ok after) :
    (∀ id, after.heap.content? id = store.heap.content? id) ∧
      after.dropped = store.dropped := by
  have afterCoherent := coherent.release released
  obtain ⟨handles, cell, _, cellEq, rfl⟩ := release_eq_ok_iff.mp released
  rcases cell with ⟨mode, object⟩
  cases mode with
  | weak => exact ⟨fun _ => rfl, rfl⟩
  | owning =>
      refine ⟨coherent.content?_dropReferences afterCoherent (· == object) rfl, ?_⟩
      have held : ∀ id, (id == object) = true → 0 < store.outside id := by
        intro id isObject
        rw [eq_of_beq isObject]
        exact coherent.outside_pos_iff.mpr (.inl ⟨token, cellEq⟩)
      change store.dropped ++ store.heap.lostStates (· == object) = store.dropped
      rw [coherent.lostStates_eq_nil held, List.append_nil]

end Store.Coherent

/-! ## Where contents come from -/

namespace Store

variable {store after : Store} {id : ObjectId} {content : TypeDescriptor × ObjectState}
  {token : Token} {object : HeapObject}

@[simp]
theorem content?_keep {other : ObjectId} :
    (store.keep other).heap.content? id = store.heap.content? id :=
  Heap.content?_addReference

theorem collect_heap (store : Store) :
    store.collect.2.heap = store.heap.sweep.dropReferences store.heap.garbage.contains := by
  simp only [collect]
  split <;> rfl

/-- A new handle changes the contents of no object. -/
theorem content?_register {mode : HandleMode}
    (registered : store.register object mode = .ok (token, after)) :
    after.heap.content? id = store.heap.content? id := by
  obtain ⟨handles, _, rfl⟩ := register_eq_ok_iff.mp registered
  cases mode with
  | owning => exact Heap.content?_addReference
  | weak => rfl

namespace Coherent

variable (coherent : store.Coherent)

include coherent

theorem content?_of_giveUp {other : ObjectId}
    (found : (store.giveUp other).heap.content? id = some content) :
    store.heap.content? id = some content := by
  rw [Store.giveUp] at found
  split at found
  · exact Heap.content?_of_dropReferences coherent.counts.memory_nodup found
  · exact found

theorem content?_of_release (released : store.release token = .ok after)
    (found : after.heap.content? id = some content) : store.heap.content? id = some content :=
  ((coherent.contents_of_release released).1 id).symm.trans found

theorem content?_of_collect (found : store.collect.2.heap.content? id = some content) :
    store.heap.content? id = some content := by
  rw [collect_heap] at found
  exact Heap.content?_of_dropReferences coherent.counts.memory_nodup found

/-- What is found after an allocation is the new object or was there before. -/
theorem content?_of_allocate {type : TypeDescriptor} {state : ObjectState}
    (allocates : store.allocate type state = (object, after))
    (found : after.heap.content? id = some content) :
    (id = object.id ∧ content = (type, state)) ∨ store.heap.content? id = some content := by
  rw [allocate_eq] at allocates
  cases allocates
  by_cases new : id = ⟨store.ready.heap.nextNumber⟩
  · have fresh := coherent.ready.counts.find?_fresh
    have newContent : (store.ready.insert type state).heap.content? id = some (type, state) :=
      new ▸ Heap.content?_insert_self fresh
    exact .inl ⟨new, Option.some.inj (found.symm.trans newContent)⟩
  · have readyFound : store.ready.heap.content? id = some content :=
      (Heap.content?_insert_of_ne new).symm.trans found
    rw [Store.ready] at readyFound
    split at readyFound
    · exact .inr (coherent.content?_of_collect readyFound)
    · exact .inr readyFound

end Coherent

end Store

end ObjectBridge
