import ObjectBridge.Proofs.Bridge.Survival
import ObjectBridge.Proofs.Mode.Bodies
import ObjectBridge.Proofs.Mode.Tables

/-!
# Stores that differ in their modes

A store is whole if no handle lost its object: whatever a token leads to is in the heap.
Only a collection takes objects from the heap, so stores stay whole without one, and then
a weak handle leads to its object as an owning one does.  Two whole stores are the same
but for modes if their tables, their heaps and the contents of all objects are.  Every
operation but a collection, done in both, leaves them so: what an owning handle adds is a
reference, and references show in collections only.
-/

namespace ObjectBridge

/-- The heap but for its objects: the numbers that it refers to, and the books. -/
def Heap.ledger (heap : Heap) : Heap := { heap with memory := [] }

namespace Store

variable {store after first second firstAfter secondAfter : Store} {id : ObjectId}
  {token : Token} {object other : HeapObject}

/-! ## Whole stores -/

/-- Handles and objects agree, and every handle leads to an object that the heap has. -/
structure Whole (store : Store) : Prop where
  coherent : store.Coherent
  present : ∀ token cell, store.handles.cell? token = some cell →
    cell.object ∈ store.heap.objects

theorem whole_empty (threshold : Nat) : (empty threshold).Whole where
  coherent := coherent_empty threshold
  present token cell cellEq := by
    rw [empty, HandleTable.cell?_empty] at cellEq
    cases cellEq

namespace Whole

variable (whole : store.Whole)

include whole

/-- A store that has the handles of a whole one, and at least its objects, is whole. -/
theorem of_handles_eq (coherent : after.Coherent) (handlesEq : after.handles = store.handles)
    (grows : ∀ id ∈ store.heap.objects, id ∈ after.heap.objects) : after.Whole where
  coherent := coherent
  present token cell cellEq := grows _ (whole.present token cell (handlesEq ▸ cellEq))

theorem leave : store.leave.Whole := by
  have coherent := whole.coherent.leave
  obtain ⟨_, _, leaveEq⟩ := store.leave_eq
  rw [leaveEq] at coherent ⊢
  exact whole.of_handles_eq coherent rfl fun _ member => member

theorem insert (type : TypeDescriptor) (state : ObjectState) : (store.insert type state).Whole :=
  whole.of_handles_eq (whole.coherent.insert type state) rfl fun _ member =>
    Heap.mem_objects_insert.mpr (.inl member)

theorem register {mode : HandleMode} (member : object.id ∈ store.heap.objects)
    (registered : store.register object mode = .ok (token, after)) : after.Whole where
  coherent := whole.coherent.register member registered
  present held cell cellEq := by
    obtain ⟨handles, _, tableRegistered, rfl⟩ := exists_of_register registered
    have fills := HandleTable.register_fills whole.coherent.sound tableRegistered
    rw [fills.cell?_eq] at cellEq
    split at cellEq
    · cases cellEq
      exact member
    · exact whole.present held cell cellEq

theorem release (released : store.release token = .ok after) : after.Whole where
  coherent := whole.coherent.release released
  present held cell cellEq := by
    obtain ⟨handles, _, _, tableReleased, rfl⟩ := exists_of_release released
    obtain ⟨_, found⟩ := HandleTable.cell?_isSome_of_release tableReleased
    have empties := HandleTable.release_empties found tableReleased
    rw [empties.cell?_eq] at cellEq
    split at cellEq
    · contradiction
    · exact whole.present held cell cellEq

/-- A token leads to the object of its cell, whatever the mode. -/
theorem resolveId_eq (token : Token) :
    store.resolveId token =
      match (store.handles.cell? token).map (·.object) with
      | none => .error (.invalid token.raw)
      | some id => .ok id := by
  cases cellEq : store.handles.cell? token with
  | none => exact resolveId_of_cell?_eq_none cellEq
  | some cell => exact whole.coherent.resolveId_of_mem cellEq (whole.present token cell cellEq)

end Whole

/-! ## What changes of references leave alone -/

/-- The books and the contents of all objects are as they were, and nothing was
reclaimed. -/
structure Retains (before after : Store) : Prop where
  ledger_eq : after.heap.ledger = before.heap.ledger
  dropped_eq : after.dropped = before.dropped
  content_eq : ∀ id, after.heap.content? id = before.heap.content? id

theorem retains_tell (store : Store) (event : Event) : store.Retains (store.tell event) :=
  ⟨rfl, rfl, fun _ => rfl⟩

theorem retains_enter (store : Store) (id : ObjectId) : store.Retains (store.enter id) :=
  ⟨rfl, rfl, fun _ => Heap.content?_addReference⟩

theorem Coherent.retains_leave (coherent : store.Coherent) : store.Retains store.leave where
  ledger_eq := by
    obtain ⟨_, _, leaveEq⟩ := store.leave_eq
    rw [leaveEq]
    rfl
  dropped_eq := coherent.dropped_leave
  content_eq := coherent.content?_leave

theorem retains_register {mode : HandleMode}
    (registered : store.register object mode = .ok (token, after)) : store.Retains after where
  ledger_eq := by
    obtain ⟨_, _, _, rfl⟩ := exists_of_register registered
    rfl
  dropped_eq := by
    obtain ⟨_, _, _, rfl⟩ := exists_of_register registered
    rfl
  content_eq _ := content?_register registered

theorem Coherent.retains_release (coherent : store.Coherent)
    (released : store.release token = .ok after) : store.Retains after where
  ledger_eq := by
    obtain ⟨_, _, _, _, rfl⟩ := exists_of_release released
    rfl
  dropped_eq := (coherent.contents_of_release released).2
  content_eq := (coherent.contents_of_release released).1

/-! ## Handles of stores -/

/-- A handle that the table issues, the store issues. -/
theorem register_of_handles {mode : HandleMode} {handles : HandleTable}
    (registered : store.handles.register object.id mode = .ok (token, handles)) :
    ∃ after, store.register object mode = .ok (token, after) ∧ after.handles = handles ∧
      after.running = store.running ∧ after.kept = store.kept := by
  refine ⟨_, register_eq_ok_iff.mpr ⟨handles, registered, rfl⟩, ?_⟩
  cases mode <;> exact ⟨rfl, rfl, rfl⟩

/-- A handle that the table takes back, the store takes back. -/
theorem release_of_handles {handles : HandleTable}
    (released : store.handles.release token = .ok handles) :
    ∃ after, store.release token = .ok after ∧ after.handles = handles ∧
      after.running = store.running ∧ after.kept = store.kept := by
  obtain ⟨⟨mode, id⟩, cellEq⟩ := HandleTable.cell?_isSome_of_release released
  refine ⟨_, release_eq_ok_iff.mpr ⟨handles, ⟨mode, id⟩, released, cellEq, rfl⟩, ?_⟩
  cases mode <;> exact ⟨rfl, rfl, rfl⟩

/-! ## The relation -/

/-- Whole stores that differ only in the modes of their handles, in the references that
these count, and in what the journal tells of them. -/
structure SameButModes (first second : Store) : Prop where
  first_whole : first.Whole
  second_whole : second.Whole
  handles_eq : first.handles.owning = second.handles.owning
  running_eq : first.running = second.running
  kept_eq : first.kept = second.kept
  dropped_eq : first.dropped = second.dropped
  ledger_eq : first.heap.ledger = second.heap.ledger
  content : ∀ id, Option.Rel (ContentRelated Program.SameButModes) (first.heap.content? id)
    (second.heap.content? id)

theorem sameButModes_empty (threshold : Nat) :
    (empty threshold).SameButModes (empty threshold) where
  first_whole := whole_empty threshold
  second_whole := whole_empty threshold
  handles_eq := rfl
  running_eq := rfl
  kept_eq := rfl
  dropped_eq := rfl
  ledger_eq := rfl
  content _ := .none

namespace SameButModes

variable (same : first.SameButModes second)

include same

/-- What changes references in both alike leaves them the same but for modes. -/
theorem of_retains (firstWhole : firstAfter.Whole) (secondWhole : secondAfter.Whole)
    (firstRetains : first.Retains firstAfter) (secondRetains : second.Retains secondAfter)
    (handlesEq : firstAfter.handles.owning = secondAfter.handles.owning)
    (runningEq : firstAfter.running = secondAfter.running)
    (keptEq : firstAfter.kept = secondAfter.kept) : firstAfter.SameButModes secondAfter where
  first_whole := firstWhole
  second_whole := secondWhole
  handles_eq := handlesEq
  running_eq := runningEq
  kept_eq := keptEq
  dropped_eq := firstRetains.dropped_eq.trans (same.dropped_eq.trans secondRetains.dropped_eq.symm)
  ledger_eq := firstRetains.ledger_eq.trans (same.ledger_eq.trans secondRetains.ledger_eq.symm)
  content id := by
    rw [firstRetains.content_eq, secondRetains.content_eq]
    exact same.content id

theorem objects_eq : first.heap.objects = second.heap.objects := by
  have ledgers := congrArg Heap.objects same.ledger_eq
  exact ledgers

theorem nextNumber_eq : first.heap.nextNumber = second.heap.nextNumber := by
  have ledgers := congrArg Heap.nextNumber same.ledger_eq
  exact ledgers

theorem isDue_eq : first.heap.isDue = second.heap.isDue := by
  have ledgers := congrArg Heap.isDue same.ledger_eq
  exact ledgers

/-! ## Calls and states -/

theorem tell (event otherEvent : Event) :
    (first.tell event).SameButModes (second.tell otherEvent) :=
  same.of_retains
    (same.first_whole.of_handles_eq (same.first_whole.coherent.tell event) rfl fun _ => id)
    (same.second_whole.of_handles_eq (same.second_whole.coherent.tell otherEvent) rfl fun _ => id)
    (first.retains_tell event) (second.retains_tell otherEvent) same.handles_eq same.running_eq
    same.kept_eq

theorem setState (id : ObjectId) (state : ObjectState) :
    (first.setState id state).SameButModes (second.setState id state) where
  first_whole := same.first_whole.of_handles_eq
    (same.first_whole.coherent.setState id state) rfl fun _ member => member
  second_whole := same.second_whole.of_handles_eq
    (same.second_whole.coherent.setState id state) rfl fun _ member => member
  handles_eq := same.handles_eq
  running_eq := same.running_eq
  kept_eq := same.kept_eq
  dropped_eq := same.dropped_eq
  ledger_eq := same.ledger_eq
  content other := by
    have alike := same.content other
    simp only [Store.setState, Heap.content?_setState]
    generalize first.heap.content? other = left at alike ⊢
    generalize second.heap.content? other = right at alike ⊢
    cases alike with
    | none => exact .none
    | some here => exact .some ⟨here.type, by simp only [here.state_eq]⟩

theorem enter (member : id ∈ first.heap.objects) :
    (first.enter id).SameButModes (second.enter id) :=
  same.of_retains
    (same.first_whole.of_handles_eq (same.first_whole.coherent.enter member) rfl fun _ here => here)
    (same.second_whole.of_handles_eq
      (same.second_whole.coherent.enter (same.objects_eq ▸ member)) rfl fun _ here => here)
    (first.retains_enter id) (second.retains_enter id) same.handles_eq
    (congrArg (id :: ·) same.running_eq) same.kept_eq

theorem leave : first.leave.SameButModes second.leave := by
  have firstWhole := same.first_whole.leave
  have secondWhole := same.second_whole.leave
  have firstRetains := same.first_whole.coherent.retains_leave
  have secondRetains := same.second_whole.coherent.retains_leave
  obtain ⟨_, _, firstEq⟩ := first.leave_eq
  obtain ⟨_, _, secondEq⟩ := second.leave_eq
  rw [firstEq] at firstWhole firstRetains ⊢
  rw [secondEq] at secondWhole secondRetains ⊢
  exact same.of_retains firstWhole secondWhole firstRetains secondRetains same.handles_eq
    (congrArg List.tail same.running_eq) same.kept_eq

/-! ## Objects -/

/-- A new object gets the same number in both. -/
theorem insert {type otherType : TypeDescriptor}
    (types : type.Related Program.SameButModes otherType) (state : ObjectState) :
    (first.insert type state).SameButModes (second.insert otherType state) where
  first_whole := same.first_whole.insert type state
  second_whole := same.second_whole.insert otherType state
  handles_eq := same.handles_eq
  running_eq := same.running_eq
  kept_eq := same.kept_eq
  dropped_eq := same.dropped_eq
  ledger_eq := congrArg (fun ledger => (ledger.insert type state).ledger) same.ledger_eq
  content id := by
    have numberEq := same.nextNumber_eq
    simp only [Store.insert]
    by_cases new : id = ⟨first.heap.nextNumber⟩
    · have otherNew : id = ⟨second.heap.nextNumber⟩ := numberEq ▸ new
      have firstContent : (first.heap.insert type state).content? id = some (type, state) :=
        new ▸ Heap.content?_insert_self same.first_whole.coherent.counts.find?_fresh
      have secondContent :
          (second.heap.insert otherType state).content? id = some (otherType, state) :=
        otherNew ▸ Heap.content?_insert_self same.second_whole.coherent.counts.find?_fresh
      rw [firstContent, secondContent]
      exact .some ⟨types, rfl⟩
    · rw [Heap.content?_insert_of_ne new, Heap.content?_insert_of_ne (numberEq ▸ new)]
      exact same.content id

/-! ## Handles -/

theorem resolveId_eq (token : Token) : first.resolveId token = second.resolveId token := by
  rw [same.first_whole.resolveId_eq, same.second_whole.resolveId_eq,
    HandleTable.object?_eq same.handles_eq]

/-- Tokens lead to the same objects, but for modes. -/
theorem resolve (token : Token) :
    Alike (HeapObject.Related Program.SameButModes) (first.resolve token)
      (second.resolve token) :=
  same.first_whole.coherent.resolve_related same.second_whole.coherent (same.resolveId_eq token)
    fun id _ => same.content id

/-- Handles of any modes are issued alike for the same object. -/
theorem register (idEq : object.id = other.id) (member : object.id ∈ first.heap.objects)
    (mode otherMode : HandleMode) :
    Alike (fun left right => left.1 = right.1 ∧ left.2.SameButModes right.2)
      (first.register object mode) (second.register other otherMode) := by
  have otherMember : other.id ∈ second.heap.objects := idEq ▸ same.objects_eq ▸ member
  rcases (HandleTable.register_alike same.handles_eq object.id mode otherMode).error_or_ok with
    ⟨cause, firstEq, secondEq⟩ | ⟨left, right, firstEq, secondEq, tokenEq, owningEq⟩
  · rw [idEq] at secondEq
    rw [Store.register, firstEq, Store.register, secondEq]
    exact .error cause
  · rw [idEq] at secondEq
    obtain ⟨firstAfter, registered, firstHandles, firstRunning, firstKept⟩ :=
      register_of_handles firstEq
    obtain ⟨secondAfter, otherRegistered, secondHandles, secondRunning, secondKept⟩ :=
      register_of_handles secondEq
    rw [registered, otherRegistered]
    refine .ok ⟨tokenEq, same.of_retains (same.first_whole.register member registered)
      (same.second_whole.register otherMember otherRegistered) (retains_register registered)
      (retains_register otherRegistered) ?_ ?_ ?_⟩
    · rw [firstHandles, secondHandles, owningEq]
    · rw [firstRunning, secondRunning, same.running_eq]
    · rw [firstKept, secondKept, same.kept_eq]

/-- Handles are released alike. -/
theorem release (token : Token) :
    Alike SameButModes (first.release token) (second.release token) := by
  rcases (HandleTable.release_alike same.handles_eq token).error_or_ok with
    ⟨cause, firstEq, secondEq⟩ | ⟨left, right, firstEq, secondEq, owningEq⟩
  · rw [Store.release, firstEq, Store.release, secondEq]
    exact .error cause
  · obtain ⟨firstAfter, released, firstHandles, firstRunning, firstKept⟩ :=
      release_of_handles firstEq
    obtain ⟨secondAfter, otherReleased, secondHandles, secondRunning, secondKept⟩ :=
      release_of_handles secondEq
    rw [released, otherReleased]
    refine .ok (same.of_retains (same.first_whole.release released)
      (same.second_whole.release otherReleased)
      (same.first_whole.coherent.retains_release released)
      (same.second_whole.coherent.retains_release otherReleased) ?_ ?_ ?_)
    · rw [firstHandles, secondHandles, owningEq]
    · rw [firstRunning, secondRunning, same.running_eq]
    · rw [firstKept, secondKept, same.kept_eq]

end SameButModes

end Store

end ObjectBridge
