import ObjectBridge.Proofs.Bridge.Valid

/-!
# Collections are exact

A collection may come at any moment of a run: from the host, from the middle of a
body, or from an allocation.  Whenever it comes, it reclaims the objects that no
owning handle leads to and that no call in progress runs on, and no others.
Nothing else takes an object from the heap.
-/

namespace ObjectBridge.Machine

variable {options : BridgeOptions} {registry : TypeRegistry} {history : List Effect}
  {machine after : Machine} {effect : Effect}

/-- The garbage of a heap is what nothing refers to from outside the heap. -/
theorem Valid.mem_garbage_iff (valid : machine.Valid) {id : ObjectId} :
    id ∈ machine.bridge.store.heap.garbage ↔
      machine.bridge.store.heap.contains id = true ∧ ¬ machine.Referenced id := by
  rw [valid.coherent.counts.mem_garbage_iff, ← valid.outside_pos_iff, Heap.contains,
    List.contains_iff_mem, Nat.pos_iff_ne_zero, not_not]

/-- In every state that a run reaches, the next step leaves in the heap the objects
that were there, less the unreferenced ones if it collects, and the object that it
allocates, if any.  So an object that an owning handle leads to or that a call runs
on stays, and memory holds what the heap holds.  What counts as a collection or an
allocation is what the heap enters in its books. -/
theorem collection_exact (reaches : Reaches (start options registry) history machine)
    (step : Step machine effect after) :
    (∀ id, after.bridge.store.heap.contains id = true ↔
      (machine.bridge.store.heap.contains id = true ∧
        (effect.collects = true → machine.Referenced id)) ∨ effect.allocated? = some id) ∧
    (∀ id, effect.allocated? = some id → machine.bridge.store.heap.contains id = false) ∧
    (∀ id, machine.Referenced id → after.bridge.store.heap.contains id = true) ∧
    (∀ id, after.bridge.store.heap.isAlive id = after.bridge.store.heap.contains id) ∧
    (∀ id, id ∈ machine.bridge.store.heap.garbage ↔
      machine.bridge.store.heap.contains id = true ∧ ¬ machine.Referenced id) ∧
    Store.Books machine.bridge.store.heap after.bridge.store.heap
      (if effect.collects then 1 else 0) (if effect.allocated?.isSome then 1 else 0) := by
  have valid := reaches.valid (valid_start options registry)
  have membership (id : ObjectId) : after.bridge.store.heap.contains id = true ↔
      (machine.bridge.store.heap.contains id = true ∧
        (effect.collects = true → machine.Referenced id)) ∨ effect.allocated? = some id := by
    rw [Heap.contains, Heap.contains, List.contains_iff_mem, List.contains_iff_mem,
      step.change.mem_objects_iff valid.coherent, valid.outside_pos_iff]
  refine ⟨membership, ?_, ?_, ?_, fun id => valid.mem_garbage_iff, step.change.books⟩
  · intro id allocates
    rw [step.change.allocated?_eq allocates, Heap.contains, ← Bool.not_eq_true,
      List.contains_iff_mem]
    exact valid.coherent.counts.fresh
  · intro id referenced
    have member := valid.coherent.counts.mem_of_outside id (valid.outside_pos_iff.mpr referenced)
    exact (membership id).mpr (.inl ⟨List.contains_iff_mem.mpr member, fun _ => referenced⟩)
  · intro id
    rw [(step.valid valid).coherent.counts.isAlive_eq]

/-- A type whose method releases the first handle that a table issues and then
collects. -/
def selfReleasing : TypeDescriptor where
  name := "Cell"
  constructors := [⟨[], fun _ => .done ⟨"Cell", []⟩⟩]
  methods :=
    [⟨"Quit", [], fun _ _ => .destroy (.ofSlot 0 0) fun _ => .collect fun _ => .done none⟩]

/-- The receiver outlives the collection of its own body although its only handle is
gone. -/
theorem collection_exact_self_releasing :
    let created := (proceed (.create "Cell" [] .owning) 2
      (start .defaults ⟨[], [("Cell", selfReleasing)]⟩)).2
    let released := (proceed (.invoke (.ofSlot 0 0) "Quit" []) 2 created).2
    ∃ after, Step released .collected after ∧
      released.bridge.store.handles.live = 0 ∧
      after.bridge.store.heap.contains ⟨1⟩ = true := by
  intro created released
  have reaches : Reaches (start .defaults ⟨[], [("Cell", selfReleasing)]⟩) _ released :=
    (reaches_proceed _ _ _).trans (reaches_proceed _ _ _)
  have collects : Step released .collected _ := @step_of_next? _ _ .collect _ rfl
  have survives := (collection_exact reaches collects).2.2.1 ⟨1⟩
  exact ⟨_, collects, rfl, survives (.inr ⟨_, List.mem_cons_self, rfl⟩)⟩

end ObjectBridge.Machine
