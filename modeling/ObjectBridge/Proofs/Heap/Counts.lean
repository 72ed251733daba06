import Mathlib.Data.List.Nodup
import ObjectBridge.Heap.Basic

/-!
# Counting references

A heap decides what is garbage by the references that each object counts.
`Counts` says that these numbers are right: an object counts one reference if
the heap refers to it, and as many more as a function from outside the heap
tells.  It is kept when a reference comes or goes on both sides at once, and it
makes a collection give up exactly the objects without references from outside.
-/

namespace ObjectBridge.Heap

variable {heap : Heap} {id other : ObjectId} {loses : ObjectId → Bool}
  {type : TypeDescriptor} {state : ObjectState}

/-! ## Finding objects after a change -/

private theorem find?_filterMap {change : HeapObject → Option HeapObject}
    (keeps : ∀ object changed, change object = some changed → changed.id = object.id)
    (id : ObjectId) {memory : List HeapObject} (nodup : (memory.map (·.id)).Nodup) :
    (memory.filterMap change).find? (·.id == id) =
      (memory.find? (·.id == id)).bind change := by
  induction memory with
  | nil => rfl
  | cons first rest ih =>
      rw [List.map_cons, List.nodup_cons] at nodup
      have restEq := ih nodup.2
      by_cases atFirst : first.id = id
      · rw [List.find?_cons_of_pos (by simpa using atFirst), Option.bind_some]
        have absent : rest.find? (·.id == id) = none := by
          rw [List.find?_eq_none]
          intro object member sameId
          have objectId : object.id = first.id := (by simpa using sameId : object.id = id).trans
            atFirst.symm
          exact nodup.1 (List.mem_map.mpr ⟨object, member, objectId⟩)
        cases changeEq : change first with
        | none => rw [List.filterMap_cons_none changeEq, restEq, absent, Option.bind_none]
        | some changed =>
            have changedId := (keeps first changed changeEq).trans atFirst
            rw [List.filterMap_cons_some changeEq,
              List.find?_cons_of_pos (by simpa using changedId)]
      · rw [List.find?_cons_of_neg (by simpa using atFirst)]
        cases changeEq : change first with
        | none => rw [List.filterMap_cons_none changeEq, restEq]
        | some changed =>
            have changedId : changed.id ≠ id := keeps first changed changeEq ▸ atFirst
            rw [List.filterMap_cons_some changeEq,
              List.find?_cons_of_neg (by simpa using changedId), restEq]

private theorem find?_map {change : HeapObject → HeapObject}
    (keeps : ∀ object, (change object).id = object.id) (id : ObjectId)
    (memory : List HeapObject) :
    (memory.map change).find? (·.id == id) = (memory.find? (·.id == id)).map change := by
  rw [List.find?_map]
  congr 2
  funext object
  rw [Function.comp_apply, keeps]

private theorem ids_map {change : HeapObject → HeapObject}
    (keeps : ∀ object, (change object).id = object.id) (memory : List HeapObject) :
    (memory.map change).map (·.id) = memory.map (·.id) := by
  simp [Function.comp_def, keeps]

private theorem ids_filterMap_sublist {change : HeapObject → Option HeapObject}
    (keeps : ∀ object changed, change object = some changed → changed.id = object.id)
    (memory : List HeapObject) :
    ((memory.filterMap change).map (·.id)).Sublist (memory.map (·.id)) := by
  induction memory with
  | nil => exact .slnil
  | cons first rest ih =>
      cases changeEq : change first with
      | none =>
          rw [List.filterMap_cons_none changeEq]
          exact ih.cons _
      | some changed =>
          rw [List.filterMap_cons_some changeEq, List.map_cons, List.map_cons,
            keeps first changed changeEq]
          exact ih.cons_cons _

theorem id_eq_of_find? {object : HeapObject} (found : heap.find? id = some object) :
    object.id = id := by
  simpa using List.find?_some found

theorem find?_setState :
    (heap.setState other state).find? id =
      (heap.find? id).map fun object => if id = other then { object with state } else object := by
  rw [find?, setState, find?_map (by intro object; split <;> rfl)]
  apply Option.map_congr
  intro object found
  rw [id_eq_of_find? found]

theorem find?_addReference :
    (heap.addReference other).find? id =
      (heap.find? id).map fun object =>
        if id = other then { object with references := object.references + 1 } else object := by
  rw [find?, addReference, find?_map (by intro object; split <;> rfl)]
  apply Option.map_congr
  intro object found
  rw [id_eq_of_find? found]

private theorem id_of_dropped (object changed : HeapObject)
    (changedEq :
      (if loses object.id then object.withoutReference? else some object) = some changed) :
    changed.id = object.id := by
  simp only [HeapObject.withoutReference?] at changedEq
  split at changedEq
  · split at changedEq
    · contradiction
    · cases changedEq
      rfl
  · cases changedEq
    rfl

theorem find?_dropReferences (nodup : (heap.memory.map (·.id)).Nodup) :
    (heap.dropReferences loses).find? id =
      if loses id then (heap.find? id).bind HeapObject.withoutReference? else heap.find? id := by
  rw [find?, dropReferences, find?_filterMap id_of_dropped id nodup, ← find?]
  cases found : heap.find? id with
  | none => simp
  | some object => simp [id_eq_of_find? found]

private theorem nodup_dropReferences (nodup : (heap.memory.map (·.id)).Nodup)
    (loses : ObjectId → Bool) : ((heap.dropReferences loses).memory.map (·.id)).Nodup :=
  nodup.sublist (ids_filterMap_sublist (@id_of_dropped loses) heap.memory)

theorem find?_insert_of_ne (notNew : id ≠ ⟨heap.nextNumber⟩) :
    (heap.insert type state).find? id = heap.find? id := by
  have newNe : (⟨heap.nextNumber⟩ : ObjectId) ≠ id := notNew.symm
  simp [find?, insert, nextObject, List.find?_append, newNe]

theorem find?_insert_self (fresh : heap.find? ⟨heap.nextNumber⟩ = none) :
    (heap.insert type state).find? ⟨heap.nextNumber⟩ = some (heap.nextObject type state) := by
  rw [find?] at fresh
  simp [find?, insert, nextObject, List.find?_append, fresh]

/-! ## Objects and their references after a change -/

@[simp]
theorem objects_dropReferences : (heap.dropReferences loses).objects = heap.objects := rfl

@[simp]
theorem mem_objects_insert :
    id ∈ (heap.insert type state).objects ↔ id ∈ heap.objects ∨ id = ⟨heap.nextNumber⟩ := by
  simp [insert]

@[simp]
theorem isAlive_sweep : heap.sweep.isAlive id = heap.isAlive id := rfl

@[simp]
theorem references_sweep : heap.sweep.references id = heap.references id := rfl

@[simp]
theorem isAlive_setState : (heap.setState other state).isAlive id = heap.isAlive id := by
  simp [isAlive, find?_setState]

@[simp]
theorem isAlive_addReference : (heap.addReference other).isAlive id = heap.isAlive id := by
  simp [isAlive, find?_addReference]

theorem isAlive_dropReferences (nodup : (heap.memory.map (·.id)).Nodup) :
    (heap.dropReferences loses).isAlive id =
      if loses id then decide (1 < heap.references id) else heap.isAlive id := by
  rw [isAlive, isAlive, references, find?_dropReferences nodup]
  cases heap.find? id with
  | none => simp
  | some object =>
      by_cases last : object.references ≤ 1
      · simp [HeapObject.withoutReference?, last, apply_ite Option.isSome, Nat.not_lt_of_le last]
      · simp [HeapObject.withoutReference?, last, apply_ite Option.isSome, Nat.lt_of_not_le last]

@[simp]
theorem references_setState : (heap.setState other state).references id = heap.references id := by
  rw [references, references, find?_setState]
  cases heap.find? id with
  | none => rfl
  | some object =>
      simp only [Option.map_some]
      split <;> rfl

theorem references_addReference (alive : heap.isAlive other = true) :
    (heap.addReference other).references id =
      heap.references id + if id = other then 1 else 0 := by
  rw [references, references, find?_addReference]
  by_cases atOther : id = other
  · subst atOther
    obtain ⟨object, found⟩ := Option.isSome_iff_exists.mp alive
    simp [found]
  · simp [atOther]

theorem references_dropReferences (nodup : (heap.memory.map (·.id)).Nodup) :
    (heap.dropReferences loses).references id =
      if loses id then heap.references id - 1 else heap.references id := by
  rw [references, references, find?_dropReferences nodup]
  by_cases lost : loses id
  · rw [if_pos lost, if_pos lost]
    cases heap.find? id with
    | none => rfl
    | some object =>
        by_cases last : object.references ≤ 1
        · simp [HeapObject.withoutReference?, last]
        · simp [HeapObject.withoutReference?, last]
  · rw [if_neg lost, if_neg lost]

theorem references_insert (fresh : heap.find? ⟨heap.nextNumber⟩ = none) :
    (heap.insert type state).references id =
      heap.references id + if id = ⟨heap.nextNumber⟩ then 1 else 0 := by
  by_cases atNew : id = ⟨heap.nextNumber⟩
  · subst atNew
    simp [references, find?_insert_self fresh, fresh, nextObject]
  · simp [references, find?_insert_of_ne atNew, atNew]

theorem isAlive_insert (fresh : heap.find? ⟨heap.nextNumber⟩ = none) :
    (heap.insert type state).isAlive id =
      (heap.isAlive id || decide (id = ⟨heap.nextNumber⟩)) := by
  by_cases atNew : id = ⟨heap.nextNumber⟩
  · subst atNew
    simp [isAlive, find?_insert_self fresh]
  · simp [isAlive, find?_insert_of_ne atNew, atNew]

/-! ## Counts that are right -/

/-- Every object that the heap refers to is in memory, nothing else is, and each
object counts the reference of the heap and those from outside. -/
structure Counts (heap : Heap) (outside : ObjectId → Nat) : Prop where
  memory_nodup : (heap.memory.map (·.id)).Nodup
  isAlive_iff : ∀ id, heap.isAlive id = true ↔ id ∈ heap.objects
  references_eq : ∀ id, heap.references id = (if id ∈ heap.objects then 1 else 0) + outside id
  mem_of_outside : ∀ id, 0 < outside id → id ∈ heap.objects
  number_lt : ∀ id ∈ heap.objects, id.number < heap.nextNumber

variable {outside after : ObjectId → Nat}

theorem counts_empty (threshold : Nat) : (empty threshold).Counts fun _ => 0 where
  memory_nodup := List.nodup_nil
  isAlive_iff _ := by simp [isAlive, find?, empty]
  references_eq _ := rfl
  mem_of_outside _ positive := absurd positive (Nat.lt_irrefl 0)
  number_lt _ member := by simp [empty] at member

/-- The heap refers to exactly the objects that are in memory. -/
theorem Counts.isAlive_eq (counts : heap.Counts outside) : heap.isAlive = heap.contains := by
  funext id
  rw [Bool.eq_iff_iff, counts.isAlive_iff, contains, List.contains_iff_mem]

theorem Counts.fresh (counts : heap.Counts outside) :
    ⟨heap.nextNumber⟩ ∉ heap.objects := fun member =>
  Nat.lt_irrefl _ (counts.number_lt _ member)

theorem Counts.find?_fresh (counts : heap.Counts outside) :
    heap.find? ⟨heap.nextNumber⟩ = none := by
  have notAlive := mt (counts.isAlive_iff ⟨heap.nextNumber⟩).mp counts.fresh
  simpa [isAlive] using notAlive

theorem Counts.setState (counts : heap.Counts outside) (id : ObjectId) (state : ObjectState) :
    (heap.setState id state).Counts outside where
  memory_nodup := by
    rw [Heap.setState, ids_map (by intro object; split <;> rfl)]
    exact counts.memory_nodup
  isAlive_iff other := by
    rw [isAlive_setState]
    exact counts.isAlive_iff other
  references_eq other := by
    rw [references_setState]
    exact counts.references_eq other
  mem_of_outside := counts.mem_of_outside
  number_lt := counts.number_lt

/-- A reference from outside comes to an object. -/
theorem Counts.addReference (counts : heap.Counts outside) (member : id ∈ heap.objects)
    (afterEq : ∀ other, after other = outside other + if other = id then 1 else 0) :
    (heap.addReference id).Counts after where
  memory_nodup := by
    rw [Heap.addReference, ids_map (by intro object; split <;> rfl)]
    exact counts.memory_nodup
  isAlive_iff other := by
    rw [isAlive_addReference]
    exact counts.isAlive_iff other
  references_eq other := by
    rw [references_addReference ((counts.isAlive_iff id).mpr member), counts.references_eq other,
      afterEq, Nat.add_assoc]
    rfl
  mem_of_outside other positive := by
    rw [afterEq] at positive
    by_cases atId : other = id
    · exact atId ▸ member
    · exact counts.mem_of_outside other (by simpa [atId] using positive)
  number_lt := counts.number_lt

/-- A reference from outside to an object goes.  The heap still refers to it. -/
theorem Counts.dropReference (counts : heap.Counts outside)
    (outsideEq : ∀ other, outside other = after other + if other = id then 1 else 0) :
    (heap.dropReferences (· == id)).Counts after where
  memory_nodup := nodup_dropReferences counts.memory_nodup _
  isAlive_iff other := by
    rw [isAlive_dropReferences counts.memory_nodup, objects_dropReferences,
      ← counts.isAlive_iff other]
    by_cases atId : other = id
    · subst atId
      have positive : 0 < outside other := by
        rw [outsideEq, if_pos rfl]
        omega
      have member := counts.mem_of_outside other positive
      have alive := (counts.isAlive_iff other).mpr member
      have referencesEq := counts.references_eq other
      rw [if_pos member] at referencesEq
      simp only [beq_self_eq_true, if_true, decide_eq_true_eq, alive, iff_true]
      omega
    · simp [atId]
  references_eq other := by
    rw [references_dropReferences counts.memory_nodup, counts.references_eq other, outsideEq,
      objects_dropReferences]
    by_cases atId : other = id
    · simp [atId]
    · simp [atId]
  mem_of_outside other positive := by
    refine counts.mem_of_outside other ?_
    rw [outsideEq]
    omega
  number_lt := counts.number_lt

/-- An allocation makes an object that nothing but the heap refers to. -/
theorem Counts.insert (counts : heap.Counts outside) (type : TypeDescriptor)
    (state : ObjectState) : (heap.insert type state).Counts outside := by
  have absent := counts.find?_fresh
  refine ⟨?_, ?_, ?_, ?_, ?_⟩
  · have newId : ∀ object ∈ heap.memory, object.id ≠ ⟨heap.nextNumber⟩ := by
      simpa [find?] using absent
    simp only [Heap.insert, List.map_append, List.map_cons, List.map_nil]
    rw [List.nodup_append_comm]
    refine List.nodup_cons.mpr ⟨?_, by simpa using counts.memory_nodup⟩
    rintro member
    obtain ⟨object, objectMem, idEq⟩ := List.mem_map.mp (by simpa using member)
    exact newId object objectMem idEq
  · intro id
    rw [isAlive_insert absent, Bool.or_eq_true, decide_eq_true_eq, counts.isAlive_iff,
      mem_objects_insert]
  · intro id
    rw [references_insert absent, counts.references_eq]
    simp only [mem_objects_insert]
    by_cases atNew : id = ⟨heap.nextNumber⟩
    · subst atNew
      simp [counts.fresh]
      omega
    · simp [atNew]
  · intro id positive
    exact mem_objects_insert.mpr (.inl (counts.mem_of_outside id positive))
  · intro id member
    change id.number < heap.nextNumber + 1
    rcases mem_objects_insert.mp member with old | rfl
    · exact Nat.lt_succ_of_lt (counts.number_lt id old)
    · exact Nat.lt_succ_self _

/-! ## Collections -/

/-- An object is garbage exactly if the heap alone refers to it. -/
theorem Counts.mem_garbage_iff (counts : heap.Counts outside) :
    id ∈ heap.garbage ↔ id ∈ heap.objects ∧ outside id = 0 := by
  simp only [garbage, List.mem_filter, decide_eq_true_eq, and_congr_right_iff]
  intro member
  rw [counts.references_eq, if_pos member]
  omega

/-- A collection leaves exactly the objects with references from outside. -/
theorem Counts.mem_sweep_iff (counts : heap.Counts outside) :
    id ∈ heap.sweep.objects ↔ 0 < outside id := by
  simp only [sweep, List.mem_filter, decide_eq_true_eq]
  constructor
  · rintro ⟨member, counted⟩
    rw [counts.references_eq, if_pos member] at counted
    omega
  · intro positive
    have member := counts.mem_of_outside id positive
    refine ⟨member, ?_⟩
    rw [counts.references_eq, if_pos member]
    omega

/-- A collection takes from each object that it gives up the reference of the heap,
which is its last one. -/
theorem Counts.collect (counts : heap.Counts outside) :
    (heap.sweep.dropReferences heap.garbage.contains).Counts outside := by
  have nodup : (heap.sweep.memory.map (·.id)).Nodup := counts.memory_nodup
  refine ⟨nodup_dropReferences nodup _, ?_, ?_, ?_, ?_⟩
  · intro id
    rw [isAlive_dropReferences nodup, objects_dropReferences, counts.mem_sweep_iff,
      isAlive_sweep, references_sweep]
    by_cases garbled : id ∈ heap.garbage
    · obtain ⟨member, noneOutside⟩ := counts.mem_garbage_iff.mp garbled
      simp [garbled, counts.references_eq, member, noneOutside]
    · rw [if_neg (by simpa using garbled), counts.isAlive_iff]
      rw [counts.mem_garbage_iff] at garbled
      constructor
      · intro member
        exact Nat.pos_of_ne_zero fun noneOutside => garbled ⟨member, noneOutside⟩
      · exact counts.mem_of_outside id
  · intro id
    rw [references_dropReferences nodup, objects_dropReferences, references_sweep,
      counts.references_eq]
    simp only [counts.mem_sweep_iff, List.contains_iff_mem, counts.mem_garbage_iff]
    by_cases member : id ∈ heap.objects
    · by_cases noneOutside : outside id = 0
      · simp [member, noneOutside]
      · simp [member, noneOutside, Nat.pos_of_ne_zero noneOutside]
    · have noneOutside : outside id = 0 := by
        by_contra someOutside
        exact member (counts.mem_of_outside id (Nat.pos_of_ne_zero someOutside))
      simp [member, noneOutside]
  · intro id positive
    exact counts.mem_sweep_iff.mpr positive
  · intro id member
    exact counts.number_lt id (List.mem_filter.mp member).1

end ObjectBridge.Heap
