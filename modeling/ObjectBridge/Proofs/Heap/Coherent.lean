import ObjectBridge.Heap.Store
import ObjectBridge.Proofs.Handle.Sound
import ObjectBridge.Proofs.Heap.Counts

/-!
# Stores that agree with themselves

A store keeps handles and objects apart and couples them by reference counts
only.  `Coherent` is what makes the coupling work: the references that objects
count from outside the heap are those of owning handles, of calls in progress
and of the host.  Every operation of a store keeps it.
-/

namespace ObjectBridge

/-! ## Owning handles -/

/-- How many handles of a slot keep an object. -/
def Slot.owns (id : ObjectId) (slot : Slot) : Nat :=
  if slot.cell = some ⟨.owning, id⟩ then 1 else 0

namespace HandleTable

variable {table after : HandleTable} {token : Token} {cell : Cell} {id : ObjectId}

/-- How many live handles keep an object. -/
def owners (table : HandleTable) (id : ObjectId) : Nat := table.total (Slot.owns id)

private theorem owning_eq_iff : cell = ⟨.owning, id⟩ ↔ cell.mode = .owning ∧ id = cell.object := by
  rcases cell with ⟨mode, object⟩
  simp [eq_comm]

theorem Fills.owners_eq (fills : table.Fills after token cell) (id : ObjectId) :
    after.owners id =
      table.owners id + if cell.mode = .owning ∧ id = cell.object then 1 else 0 := by
  have totalEq := fills.total_eq (Slot.owns id) rfl
  simpa [Slot.owns, owners, owning_eq_iff] using totalEq

theorem Empties.owners_eq (empties : table.Empties after token cell) (id : ObjectId) :
    table.owners id =
      after.owners id + if cell.mode = .owning ∧ id = cell.object then 1 else 0 := by
  have totalEq := empties.total_eq (Slot.owns id) rfl
  simpa [Slot.owns, owners, owning_eq_iff] using totalEq.symm

/-- An object has owners exactly if a token leads to an owning cell of it. -/
theorem Sound.owners_pos_iff (sound : table.Sound) :
    0 < table.owners id ↔ ∃ token, table.cell? token = some ⟨.owning, id⟩ := by
  rw [owners, total, List.sum_pos_iff_exists_pos_nat]
  simp only [List.mem_map, exists_exists_and_eq_and]
  constructor
  · rintro ⟨slot, slotMem, positive⟩
    obtain ⟨index, present, rfl⟩ := List.getElem_of_mem slotMem
    have slotEq : table.slotAt index = table.slots[index] := by
      simp [slotAt, List.getD_eq_getElem?_getD, present]
    have cellEq : (table.slotAt index).cell = some ⟨.owning, id⟩ := by
      by_contra different
      rw [← slotEq, Slot.owns, if_neg different] at positive
      contradiction
    have indexLt := present.trans_le sound.length_le
    exact ⟨Token.ofSlot index (table.slotAt index).generation,
      (cell?_ofSlot indexLt (sound.generation_lt index)).trans cellEq⟩
  · rintro ⟨token, cellEq⟩
    obtain ⟨index, _, slotEq⟩ := cell?_eq_some_iff.mp cellEq
    have present := lt_length_of_cell_eq_some (congrArg Slot.cell slotEq)
    exact ⟨table.slotAt index, slotAt_mem present, by simp [slotEq, Slot.owns]⟩

end HandleTable

namespace Store

variable {store after : Store} {id : ObjectId} {token : Token}

/-- How many references from outside the heap lead to an object. -/
def outside (store : Store) (id : ObjectId) : Nat :=
  store.handles.owners id + store.running.count id + store.kept.count id

/-- Handles and objects agree. -/
structure Coherent (store : Store) : Prop where
  sound : store.handles.Sound
  counts : store.heap.Counts store.outside
  /-- Handles lead to objects that were allocated, if not to objects that exist. -/
  number_lt : ∀ token cell, store.handles.cell? token = some cell →
    cell.object.number < store.heap.nextNumber

theorem coherent_empty (threshold : Nat) : (empty threshold).Coherent where
  sound := HandleTable.sound_empty
  counts := Heap.counts_empty threshold
  number_lt token cell cellEq := by
    rw [empty, HandleTable.cell?_empty] at cellEq
    cases cellEq

theorem Coherent.tell (coherent : store.Coherent) (event : Event) :
    (store.tell event).Coherent :=
  ⟨coherent.sound, coherent.counts, coherent.number_lt⟩

theorem Coherent.setState (coherent : store.Coherent) (id : ObjectId) (state : ObjectState) :
    (store.setState id state).Coherent :=
  ⟨coherent.sound, coherent.counts.setState id state, coherent.number_lt⟩

/-! ## Calls and kept references -/

private theorem count_cons_eq (id other : ObjectId) (rest : List ObjectId) :
    (id :: rest).count other = rest.count other + if other = id then 1 else 0 := by
  by_cases atId : other = id
  · simp [atId]
  · simp [atId, Ne.symm atId]

theorem Coherent.enter (coherent : store.Coherent) (member : id ∈ store.heap.objects) :
    (store.enter id).Coherent where
  sound := coherent.sound
  counts := coherent.counts.addReference member fun other => by
    simp only [outside, Store.enter, Store.addReference, count_cons_eq]
    omega
  number_lt := coherent.number_lt

theorem Coherent.leave (coherent : store.Coherent) : store.leave.Coherent := by
  rcases runningEq : store.running with _ | ⟨id, rest⟩
  · simpa only [Store.leave, runningEq] using coherent
  · simp only [Store.leave, runningEq]
    exact ⟨coherent.sound, coherent.counts.dropReference fun other => by
      simp only [outside, dropReference, dropReferences, runningEq, count_cons_eq]
      omega, coherent.number_lt⟩

theorem Coherent.keep (coherent : store.Coherent) (member : id ∈ store.heap.objects) :
    (store.keep id).Coherent where
  sound := coherent.sound
  counts := coherent.counts.addReference member fun other => by
    simp only [outside, Store.keep, Store.addReference, count_cons_eq]
    omega
  number_lt := coherent.number_lt

theorem Coherent.giveUp (coherent : store.Coherent) (id : ObjectId) :
    (store.giveUp id).Coherent := by
  rw [Store.giveUp]
  split
  · rename_i keptId
    refine ⟨coherent.sound, coherent.counts.dropReference fun other => ?_, coherent.number_lt⟩
    have positive : 0 < store.kept.count id :=
      List.count_pos_iff.mpr (List.contains_iff_mem.mp keptId)
    by_cases atId : other = id
    · subst atId
      simp only [outside, dropReference, dropReferences, List.count_erase_self, if_true]
      omega
    · simp [outside, dropReference, dropReferences, atId]
  · exact coherent

/-! ## Allocation and collection -/

theorem Coherent.collect (coherent : store.Coherent) : store.collect.2.Coherent := by
  have swept : ({ store with heap := store.heap.sweep }.dropReferences
      store.heap.garbage.contains).Coherent :=
    ⟨coherent.sound, coherent.counts.collect, coherent.number_lt⟩
  simp only [Store.collect]
  split
  · exact swept
  · exact swept.tell _

theorem Coherent.insert (coherent : store.Coherent) (type : TypeDescriptor)
    (state : ObjectState) : (store.insert type state).Coherent where
  sound := coherent.sound
  counts := coherent.counts.insert type state
  number_lt token cell cellEq := Nat.lt_succ_of_lt (coherent.number_lt token cell cellEq)

/-- The store that an allocation adds its object to. -/
def ready (store : Store) : Store :=
  if store.heap.isDue then store.collect.2 else store

theorem allocate_eq (type : TypeDescriptor) (state : ObjectState) :
    store.allocate type state =
      (store.ready.heap.nextObject type state, store.ready.insert type state) := rfl

theorem Coherent.ready (coherent : store.Coherent) : store.ready.Coherent := by
  rw [Store.ready]
  split
  · exact coherent.collect
  · exact coherent

theorem Coherent.allocate (coherent : store.Coherent) {type : TypeDescriptor}
    {state : ObjectState} {object : HeapObject}
    (allocates : store.allocate type state = (object, after)) :
    after.Coherent ∧ object.id ∈ after.heap.objects := by
  rw [allocate_eq] at allocates
  cases allocates
  exact ⟨coherent.ready.insert type state, Heap.mem_objects_insert.mpr (.inr rfl)⟩

/-! ## Handles -/

/-- Issuing a handle is issuing it in the table, referring to the object as it does,
and telling. -/
theorem register_eq_ok_iff {object : HeapObject} {mode : HandleMode} :
    store.register object mode = .ok (token, after) ↔
      ∃ handles, store.handles.register object.id mode = .ok (token, handles) ∧
        after = ({ store with handles }.addHandle object.id mode).tell
          (.registered mode token object.type.name object.id) := by
  cases registered : store.handles.register object.id mode with
  | error cause => simp [register, registered, Except.map]
  | ok issued =>
      rcases issued with ⟨issuedToken, handles⟩
      simp only [register, registered, Except.map, Except.ok.injEq, Prod.mk.injEq]
      constructor
      · rintro ⟨rfl, rfl⟩
        exact ⟨handles, ⟨rfl, rfl⟩, rfl⟩
      · rintro ⟨_, ⟨rfl, rfl⟩, rfl⟩
        exact ⟨rfl, rfl⟩

/-- Releasing a handle is releasing it in the table, telling, and giving up the
reference of its cell. -/
theorem release_eq_ok_iff :
    store.release token = .ok after ↔
      ∃ handles cell, store.handles.release token = .ok handles ∧
        store.handles.cell? token = some cell ∧
        after = ({ store with handles }.tell (.released token)).dropCell (some cell) := by
  cases released : store.handles.release token with
  | error cause => simp [release, released, Except.map]
  | ok handles =>
      obtain ⟨cell, cellEq⟩ := HandleTable.cell?_isSome_of_release released
      simp [release, released, Except.map, cellEq, eq_comm]

theorem release_eq_error_iff {cause : HandleError} :
    store.release token = .error cause ↔
      store.handles.cell? token = none ∧ cause = .invalid token.raw := by
  rw [← HandleTable.release_eq_error_iff]
  cases released : store.handles.release token with
  | error found => simp [release, released, Except.map]
  | ok handles => simp [release, released, Except.map]

theorem Coherent.register (coherent : store.Coherent) {object : HeapObject}
    {mode : HandleMode} (member : object.id ∈ store.heap.objects)
    (registered : store.register object mode = .ok (token, after)) : after.Coherent := by
  obtain ⟨handles, tableRegistered, rfl⟩ := register_eq_ok_iff.mp registered
  have fills := HandleTable.register_fills coherent.sound tableRegistered
  have sound := coherent.sound.register tableRegistered
  have numberLt : ∀ other cell, handles.cell? other = some cell →
      cell.object.number < store.heap.nextNumber := by
    intro other cell cellEq
    rw [fills.cell?_eq] at cellEq
    split at cellEq
    · cases cellEq
      exact coherent.counts.number_lt _ member
    · exact coherent.number_lt other cell cellEq
  refine Coherent.tell ?_ _
  cases mode with
  | owning =>
      refine ⟨sound, coherent.counts.addReference member fun other => ?_, numberLt⟩
      have ownersEq := fills.owners_eq other
      simp only [true_and] at ownersEq
      simp only [outside, addHandle, Store.addReference, ownersEq]
      omega
  | weak =>
      refine ⟨sound, ?_, numberLt⟩
      have outsideEq : ({ store with handles } : Store).outside = store.outside := by
        funext other
        simp [outside, fills.owners_eq other]
      change store.heap.Counts ({ store with handles } : Store).outside
      rw [outsideEq]
      exact coherent.counts

theorem Coherent.release (coherent : store.Coherent)
    (released : store.release token = .ok after) : after.Coherent := by
  obtain ⟨handles, cell, tableReleased, cellEq, rfl⟩ := release_eq_ok_iff.mp released
  have empties := HandleTable.release_empties cellEq tableReleased
  have sound := coherent.sound.release tableReleased
  have numberLt : ∀ other found, handles.cell? other = some found →
      found.object.number < store.heap.nextNumber := by
    intro other found foundEq
    rw [empties.cell?_eq] at foundEq
    split at foundEq
    · contradiction
    · exact coherent.number_lt other found foundEq
  rcases cell with ⟨mode, id⟩
  cases mode with
  | owning =>
      refine ⟨sound, coherent.counts.dropReference fun other => ?_, numberLt⟩
      have ownersEq := empties.owners_eq other
      simp only [true_and] at ownersEq
      simp only [outside, dropCell, dropReference, dropReferences, Store.tell, ownersEq]
      omega
  | weak =>
      refine ⟨sound, ?_, numberLt⟩
      have outsideEq : ({ store with handles } : Store).outside = store.outside := by
        funext other
        simp [outside, empties.owners_eq other]
      change store.heap.Counts ({ store with handles } : Store).outside
      rw [outsideEq]
      exact coherent.counts

/-! ## What agreement means -/

/-- The objects referred to from outside the heap are those of owning handles, of
calls in progress and of the host. -/
theorem Coherent.outside_pos_iff (coherent : store.Coherent) :
    0 < store.outside id ↔
      (∃ token, store.handles.cell? token = some ⟨.owning, id⟩) ∨
        id ∈ store.running ∨ id ∈ store.kept := by
  rw [← coherent.sound.owners_pos_iff, ← List.count_pos_iff (l := store.running),
    ← List.count_pos_iff (l := store.kept), outside]
  omega

/-- An owning handle leads to its object, which is in the heap. -/
theorem Coherent.resolveId_owning (coherent : store.Coherent)
    (cellEq : store.handles.cell? token = some ⟨.owning, id⟩) :
    store.resolveId token = .ok id ∧ id ∈ store.heap.objects := by
  refine ⟨by simp [resolveId, HandleTable.resolve, cellEq], ?_⟩
  exact coherent.counts.mem_of_outside id (coherent.outside_pos_iff.mpr (.inl ⟨token, cellEq⟩))

/-- A weak handle leads to its object as long as the heap refers to it. -/
theorem Coherent.resolveId_weak (coherent : store.Coherent)
    (cellEq : store.handles.cell? token = some ⟨.weak, id⟩) :
    store.resolveId token =
      if id ∈ store.heap.objects then .ok id else .error (.collected token.raw) := by
  simp [resolveId, HandleTable.resolve, cellEq, coherent.counts.isAlive_iff]

theorem resolveId_of_cell?_eq_none (cellEq : store.handles.cell? token = none) :
    store.resolveId token = .error (.invalid token.raw) := by
  simp [resolveId, HandleTable.resolve, cellEq]

theorem Coherent.mem_of_resolveId (coherent : store.Coherent)
    (resolved : store.resolveId token = .ok id) : id ∈ store.heap.objects := by
  cases cellEq : store.handles.cell? token with
  | none =>
      rw [resolveId_of_cell?_eq_none cellEq] at resolved
      contradiction
  | some cell =>
      rcases cell with ⟨mode, object⟩
      cases mode with
      | owning =>
          obtain ⟨resolvedEq, member⟩ := coherent.resolveId_owning cellEq
          rw [resolvedEq] at resolved
          cases resolved
          exact member
      | weak =>
          rw [coherent.resolveId_weak cellEq] at resolved
          split at resolved
          · cases resolved
            assumption
          · contradiction

theorem resolve_eq_ok_iff {object : HeapObject} :
    store.resolve token = .ok object ↔
      store.resolveId token = .ok object.id ∧ store.heap.find? object.id = some object := by
  cases resolved : store.resolveId token with
  | error cause => simp [resolve, resolved]
  | ok id =>
      cases found : store.heap.find? id with
      | none =>
          simp only [resolve, resolved, found, Except.ok.injEq, false_iff, reduceCtorEq]
          rintro ⟨rfl, foundObject⟩
          rw [found] at foundObject
          contradiction
      | some existing =>
          have existingId := Heap.id_eq_of_find? found
          simp only [resolve, resolved, found, Except.ok.injEq]
          constructor
          · rintro rfl
            exact ⟨existingId.symm, existingId ▸ found⟩
          · rintro ⟨rfl, foundObject⟩
            exact Option.some.inj (found.symm.trans foundObject)

/-- A token leads to an object exactly if it leads to the object's number. -/
theorem Coherent.map_id_resolve (coherent : store.Coherent) (token : Token) :
    (store.resolve token).map (·.id) = store.resolveId token := by
  cases resolved : store.resolveId token with
  | error cause => simp [resolve, resolved, Except.map]
  | ok id =>
      have alive := (coherent.counts.isAlive_iff id).mpr (coherent.mem_of_resolveId resolved)
      obtain ⟨object, found⟩ := Option.isSome_iff_exists.mp alive
      simp [resolve, resolved, found, Except.map, Heap.id_eq_of_find? found]

theorem Coherent.resolve_eq_error_iff (coherent : store.Coherent) {cause : HandleError} :
    store.resolve token = .error cause ↔ store.resolveId token = .error cause := by
  rw [← coherent.map_id_resolve]
  cases store.resolve token <;> simp [Except.map]

/-- A collection leaves exactly the objects referred to from outside the heap. -/
theorem Coherent.mem_collect_iff (coherent : store.Coherent) :
    id ∈ store.collect.2.heap.objects ↔ 0 < store.outside id := by
  rw [← coherent.counts.mem_sweep_iff]
  simp only [Store.collect]
  split <;> rfl

end Store

end ObjectBridge
