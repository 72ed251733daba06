import ObjectBridge.Proofs.Bridge.Change
import ObjectBridge.Proofs.Heap.Contents
import ObjectBridge.Proofs.Twin.Bodies

/-!
# Stores that hosts cannot tell apart

Two stores are twins if they have the same handles, all of them owning, and the
same contents behind every object that something outside the heap refers to.
Their heaps may hold different garbage.  A collection in one of them leaves them
twins, and so does every operation done in both.
-/

namespace ObjectBridge

/-! ## Contents of objects -/

/-- Contents of the same type but for collections and in the same state. -/
structure AlikeContent (first second : TypeDescriptor × ObjectState) : Prop where
  type : first.1.SameButCollections second.1
  state_eq : first.2 = second.2

namespace Store

variable {store after first second : Store} {id : ObjectId} {token : Token}

/-! ## Operations that keep contents -/

/-- Nothing is referred to that was not before, and what is referred to keeps its
contents. -/
structure Keeps (before after : Store) : Prop where
  coherent : after.Coherent
  outside : ∀ id, 0 < after.outside id → 0 < before.outside id
  content : ∀ id, 0 < after.outside id → after.heap.content? id = before.heap.content? id

theorem Coherent.keeps (coherent : store.Coherent) : store.Keeps store :=
  ⟨coherent, fun _ positive => positive, fun _ _ => rfl⟩

/-- References that go keep contents. -/
private theorem Coherent.keeps_of_drop (coherent : store.Coherent) (afterCoherent : after.Coherent)
    (loses : ObjectId → Bool)
    (memoryEq : after.heap.memory = (store.heap.dropReferences loses).memory)
    (outside : ∀ id, after.outside id ≤ store.outside id) : store.Keeps after where
  coherent := afterCoherent
  outside id positive := positive.trans_le (outside id)
  content id positive := by
    have member := afterCoherent.counts.mem_of_outside id positive
    have alive := (afterCoherent.counts.isAlive_iff id).mpr member
    have findEq : after.heap.find? id = (store.heap.dropReferences loses).find? id := by
      rw [Heap.find?, memoryEq, Heap.find?]
    rw [Heap.isAlive, findEq] at alive
    rw [Heap.content?, findEq]
    exact Heap.content?_dropReferences coherent.counts.memory_nodup alive

theorem Coherent.keeps_tell (coherent : store.Coherent) (event : Event) :
    store.Keeps (store.tell event) :=
  ⟨coherent.tell event, fun _ positive => positive, fun _ _ => rfl⟩

theorem Coherent.keeps_collect (coherent : store.Coherent) : store.Keeps store.collect.2 := by
  obtain ⟨_, _, _, _, collectEq⟩ := store.collect_eq
  refine coherent.keeps_of_drop coherent.collect store.heap.garbage.contains ?_ ?_
  · simp only [Store.collect]
    split <;> rfl
  · intro id
    rw [collectEq]
    exact le_rfl

theorem Coherent.keeps_insert (coherent : store.Coherent) (type : TypeDescriptor)
    (state : ObjectState) : store.Keeps (store.insert type state) where
  coherent := coherent.insert type state
  outside _ positive := positive
  content id positive := by
    refine Heap.content?_insert_of_ne ?_
    rintro rfl
    exact coherent.counts.fresh (coherent.counts.mem_of_outside _ positive)

theorem Coherent.keeps_enter (coherent : store.Coherent) (referenced : 0 < store.outside id) :
    store.Keeps (store.enter id) where
  coherent := coherent.enter (coherent.counts.mem_of_outside id referenced)
  outside other positive := by
    by_cases atId : other = id
    · exact atId ▸ referenced
    · have notId : id ≠ other := Ne.symm atId
      simpa [Store.outside, Store.enter, Store.addReference, notId] using positive
  content _ _ := Heap.content?_addReference

theorem Coherent.keeps_leave (coherent : store.Coherent) : store.Keeps store.leave := by
  rcases runningEq : store.running with _ | ⟨id, rest⟩
  · have leaveEq : store.leave = store := by rw [Store.leave, runningEq]
    rw [leaveEq]
    exact coherent.keeps
  · refine coherent.keeps_of_drop coherent.leave (· == id) ?_ ?_
    · rw [Store.leave, runningEq]
      rfl
    · intro other
      obtain ⟨_, _, leaveEq⟩ := store.leave_eq
      rw [leaveEq]
      have countLe := (List.tail_sublist store.running).count_le other
      simp only [Store.outside]
      omega

theorem Coherent.keeps_release (coherent : store.Coherent)
    (released : store.release token = .ok after) : store.Keeps after := by
  have afterCoherent := coherent.release released
  obtain ⟨handles, cell, tableReleased, cellEq, rfl⟩ := release_eq_ok_iff.mp released
  have empties := HandleTable.release_empties cellEq tableReleased
  have ownersLe (id : ObjectId) : handles.owners id ≤ store.handles.owners id := by
    rw [empties.owners_eq id]
    exact Nat.le_add_right _ _
  rcases cell with ⟨mode, object⟩
  cases mode with
  | owning =>
      refine coherent.keeps_of_drop afterCoherent (· == object) rfl fun id => ?_
      change handles.owners id + store.running.count id + store.kept.count id ≤ store.outside id
      exact Nat.add_le_add_right (Nat.add_le_add_right (ownersLe id) _) _
  | weak =>
      refine ⟨afterCoherent, fun id positive => positive.trans_le ?_, fun _ _ => rfl⟩
      change handles.owners id + store.running.count id + store.kept.count id ≤ store.outside id
      exact Nat.add_le_add_right (Nat.add_le_add_right (ownersLe id) _) _

/-! ## Twins -/

/-- Stores with the same owning handles and the same contents behind them. -/
structure Twin (first second : Store) : Prop where
  first_coherent : first.Coherent
  second_coherent : second.Coherent
  handles_eq : first.handles = second.handles
  running_eq : first.running = second.running
  kept_eq : first.kept = second.kept
  nextNumber_eq : first.heap.nextNumber = second.heap.nextNumber
  owning : ∀ token cell, first.handles.cell? token = some cell → cell.mode = .owning
  content : ∀ id, 0 < first.outside id →
    Option.Rel AlikeContent (first.heap.content? id) (second.heap.content? id)

theorem twin_empty (threshold otherThreshold : Nat) :
    (empty threshold).Twin (empty otherThreshold) where
  first_coherent := coherent_empty threshold
  second_coherent := coherent_empty otherThreshold
  handles_eq := rfl
  running_eq := rfl
  kept_eq := rfl
  nextNumber_eq := rfl
  owning token cell cellEq := by
    rw [empty, HandleTable.cell?_empty] at cellEq
    cases cellEq
  content id positive := absurd ((coherent_empty threshold).counts.mem_of_outside id positive)
    List.not_mem_nil

theorem Twin.outside_eq (twin : first.Twin second) : first.outside = second.outside := by
  funext id
  rw [outside, outside, twin.handles_eq, twin.running_eq, twin.kept_eq]

/-- Twins stay twins when both keep their contents and come to the same handles. -/
theorem Twin.of_keeps (twin : first.Twin second) {firstAfter secondAfter : Store}
    (firstKeeps : first.Keeps firstAfter) (secondKeeps : second.Keeps secondAfter)
    (handlesEq : firstAfter.handles = secondAfter.handles)
    (runningEq : firstAfter.running = secondAfter.running)
    (keptEq : firstAfter.kept = secondAfter.kept)
    (nextNumberEq : firstAfter.heap.nextNumber = secondAfter.heap.nextNumber)
    (cells : ∀ token cell, firstAfter.handles.cell? token = some cell →
      first.handles.cell? token = some cell) :
    firstAfter.Twin secondAfter where
  first_coherent := firstKeeps.coherent
  second_coherent := secondKeeps.coherent
  handles_eq := handlesEq
  running_eq := runningEq
  kept_eq := keptEq
  nextNumber_eq := nextNumberEq
  owning token cell cellEq := twin.owning token cell (cells token cell cellEq)
  content id positive := by
    have outsideEq : firstAfter.outside id = secondAfter.outside id := by
      rw [outside, outside, handlesEq, runningEq, keptEq]
    rw [firstKeeps.content id positive, secondKeeps.content id (outsideEq ▸ positive)]
    exact twin.content id (firstKeeps.outside id positive)

theorem Twin.tell (twin : first.Twin second) (event : Event) :
    (first.tell event).Twin (second.tell event) :=
  twin.of_keeps (twin.first_coherent.keeps_tell event) (twin.second_coherent.keeps_tell event)
    twin.handles_eq twin.running_eq twin.kept_eq twin.nextNumber_eq fun _ _ cellEq => cellEq

theorem Twin.collect_left (twin : first.Twin second) : first.collect.2.Twin second := by
  have keeps := twin.first_coherent.keeps_collect
  obtain ⟨_, _, _, books, collectEq⟩ := first.collect_eq
  rw [collectEq] at keeps ⊢
  exact twin.of_keeps keeps twin.second_coherent.keeps twin.handles_eq twin.running_eq
    twin.kept_eq (books.nextNumber_eq.trans twin.nextNumber_eq) fun _ _ cellEq => cellEq

theorem Twin.collect_right (twin : first.Twin second) : first.Twin second.collect.2 := by
  have keeps := twin.second_coherent.keeps_collect
  obtain ⟨_, _, _, books, collectEq⟩ := second.collect_eq
  rw [collectEq] at keeps ⊢
  exact twin.of_keeps twin.first_coherent.keeps keeps twin.handles_eq twin.running_eq
    twin.kept_eq (twin.nextNumber_eq.trans books.nextNumber_eq.symm) fun _ _ cellEq => cellEq

theorem Twin.ready (twin : first.Twin second) : first.ready.Twin second.ready := by
  have left : first.ready.Twin second := by
    rw [Store.ready]
    split
    · exact twin.collect_left
    · exact twin
  rw [Store.ready.eq_def second]
  split
  · exact left.collect_right
  · exact left

theorem Twin.setState (twin : first.Twin second) (id : ObjectId) (state : ObjectState) :
    (first.setState id state).Twin (second.setState id state) where
  first_coherent := twin.first_coherent.setState id state
  second_coherent := twin.second_coherent.setState id state
  handles_eq := twin.handles_eq
  running_eq := twin.running_eq
  kept_eq := twin.kept_eq
  nextNumber_eq := twin.nextNumber_eq
  owning := twin.owning
  content other positive := by
    have alike := twin.content other positive
    simp only [Store.setState, Heap.content?_setState]
    generalize first.heap.content? other = left at alike ⊢
    generalize second.heap.content? other = right at alike ⊢
    cases alike with
    | none => exact .none
    | some here => exact .some ⟨here.type, by simp only [here.state_eq]⟩

theorem Twin.enter (twin : first.Twin second) (referenced : 0 < first.outside id) :
    (first.enter id).Twin (second.enter id) := by
  have alsoReferenced : 0 < second.outside id := twin.outside_eq ▸ referenced
  exact twin.of_keeps (twin.first_coherent.keeps_enter referenced)
    (twin.second_coherent.keeps_enter alsoReferenced) twin.handles_eq
    (congrArg (id :: ·) twin.running_eq) twin.kept_eq twin.nextNumber_eq fun _ _ cellEq => cellEq

theorem Twin.leave (twin : first.Twin second) : first.leave.Twin second.leave := by
  have firstKeeps := twin.first_coherent.keeps_leave
  have secondKeeps := twin.second_coherent.keeps_leave
  obtain ⟨_, _, firstEq⟩ := first.leave_eq
  obtain ⟨_, _, secondEq⟩ := second.leave_eq
  rw [firstEq] at firstKeeps ⊢
  rw [secondEq] at secondKeeps ⊢
  exact twin.of_keeps firstKeeps secondKeeps twin.handles_eq
    (congrArg List.tail twin.running_eq) twin.kept_eq twin.nextNumber_eq fun _ _ cellEq => cellEq

/-! ## Handles of twins -/

/-- Objects with the same number and alike contents. -/
structure AlikeObject (first second : HeapObject) : Prop where
  id_eq : first.id = second.id
  type : first.type.SameButCollections second.type
  state_eq : first.state = second.state

theorem Twin.resolveId_eq (twin : first.Twin second) (token : Token) :
    first.resolveId token = second.resolveId token := by
  rw [resolveId, resolveId, HandleTable.resolve, HandleTable.resolve, ← twin.handles_eq]
  cases cellEq : first.handles.cell? token with
  | none => rfl
  | some cell =>
      have owning := twin.owning token cell cellEq
      rcases cell with ⟨mode, id⟩
      cases owning
      rfl

theorem Twin.outside_pos_of_resolveId (twin : first.Twin second)
    (resolved : first.resolveId token = .ok id) : 0 < first.outside id := by
  cases cellEq : first.handles.cell? token with
  | none =>
      rw [resolveId_of_cell?_eq_none cellEq] at resolved
      cases resolved
  | some cell =>
      have owning := twin.owning token cell cellEq
      rcases cell with ⟨mode, object⟩
      cases owning
      rw [(twin.first_coherent.resolveId_owning cellEq).1] at resolved
      cases resolved
      exact twin.first_coherent.outside_pos_iff.mpr (.inl ⟨token, cellEq⟩)

/-- Tokens lead to alike objects in twins. -/
theorem Twin.resolve (twin : first.Twin second) (token : Token) :
    Alike AlikeObject (first.resolve token) (second.resolve token) := by
  have resolved : Alike (HeapObject.Related Program.SameButCollections) (first.resolve token)
      (second.resolve token) := by
    refine twin.first_coherent.resolve_related twin.second_coherent (twin.resolveId_eq token) ?_
    intro id resolved
    have alike := twin.content id (twin.outside_pos_of_resolveId resolved)
    generalize first.heap.content? id = left at alike ⊢
    generalize second.heap.content? id = right at alike ⊢
    cases alike with
    | none => exact .none
    | some here => exact .some ⟨here.type.related, here.state_eq⟩
  exact resolved.imp fun _ _ here => ⟨here.id_eq, here.type.sameButCollections, here.state_eq⟩

theorem Twin.release (twin : first.Twin second) (token : Token) :
    Alike Twin (first.release token) (second.release token) := by
  cases released : first.release token with
  | error cause =>
      obtain ⟨cellEq, rfl⟩ := release_eq_error_iff.mp released
      rw [twin.handles_eq] at cellEq
      rw [release_eq_error_iff.mpr ⟨cellEq, rfl⟩]
      exact .error _
  | ok firstAfter =>
      cases alsoReleased : second.release token with
      | error cause =>
          obtain ⟨cellEq, _⟩ := release_eq_error_iff.mp alsoReleased
          rw [← twin.handles_eq] at cellEq
          rw [release_eq_error_iff.mpr ⟨cellEq, rfl⟩] at released
          cases released
      | ok secondAfter =>
          have firstKeeps := twin.first_coherent.keeps_release released
          have secondKeeps := twin.second_coherent.keeps_release alsoReleased
          obtain ⟨handles, _, _, tableReleased, rfl⟩ := exists_of_release released
          obtain ⟨otherHandles, _, _, alsoTableReleased, rfl⟩ := exists_of_release alsoReleased
          rw [← twin.handles_eq, tableReleased] at alsoTableReleased
          cases alsoTableReleased
          obtain ⟨cell, cellEq⟩ := HandleTable.cell?_isSome_of_release tableReleased
          have empties := HandleTable.release_empties cellEq tableReleased
          refine .ok (twin.of_keeps firstKeeps secondKeeps rfl twin.running_eq twin.kept_eq
            twin.nextNumber_eq ?_)
          intro other found foundEq
          rw [empties.cell?_eq] at foundEq
          split at foundEq
          · contradiction
          · exact foundEq

/-! ## New objects of twins -/

/-- Alike objects with the same number that are in the heaps of two stores. -/
structure AlikeMember (first second : Store) (object other : HeapObject) : Prop where
  alike : AlikeObject object other
  first_mem : object.id ∈ first.heap.objects
  second_mem : object.id ∈ second.heap.objects
  content : Option.Rel AlikeContent (first.heap.content? object.id)
    (second.heap.content? object.id)

/-- Twins stay twins when both allocate, and the new objects are alike. -/
theorem Twin.allocate (twin : first.Twin second) {type other : TypeDescriptor}
    (same : type.SameButCollections other) (state : ObjectState) :
    (first.allocate type state).2.Twin (second.allocate other state).2 ∧
      AlikeMember (first.allocate type state).2 (second.allocate other state).2
        (first.allocate type state).1 (second.allocate other state).1 := by
  have ready := twin.ready
  rw [allocate_eq, allocate_eq]
  have idEq : (⟨first.ready.heap.nextNumber⟩ : ObjectId) = ⟨second.ready.heap.nextNumber⟩ :=
    congrArg ObjectId.mk ready.nextNumber_eq
  constructor
  · exact ready.of_keeps (ready.first_coherent.keeps_insert type state)
      (ready.second_coherent.keeps_insert other state) ready.handles_eq ready.running_eq
      ready.kept_eq (congrArg Nat.succ ready.nextNumber_eq) fun _ _ cellEq => cellEq
  · refine ⟨⟨idEq, same, rfl⟩, Heap.mem_objects_insert.mpr (.inr rfl),
      Heap.mem_objects_insert.mpr (.inr idEq), ?_⟩
    have firstContent : (first.ready.insert type state).heap.content?
        ⟨first.ready.heap.nextNumber⟩ = some (type, state) :=
      Heap.content?_insert_self ready.first_coherent.counts.find?_fresh
    have secondContent : (second.ready.insert other state).heap.content?
        ⟨second.ready.heap.nextNumber⟩ = some (other, state) :=
      Heap.content?_insert_self ready.second_coherent.counts.find?_fresh
    rw [← idEq] at secondContent
    simp only [Heap.nextObject]
    rw [firstContent, secondContent]
    exact .some ⟨same, rfl⟩

/-- Both of two twins issue a handle for alike objects, under the same token, or
neither does.  They stay twins if the handle is owning. -/
theorem Twin.register (twin : first.Twin second) {object other : HeapObject}
    (member : AlikeMember first second object other) (mode : HandleMode) :
    Alike (fun left right => left.1 = right.1 ∧ (mode = .owning → left.2.Twin right.2))
      (first.register object mode) (second.register other mode) := by
  cases registered : first.handles.register object.id mode with
  | error cause =>
      have alsoRegistered : second.handles.register other.id mode = .error cause := by
        rw [← twin.handles_eq, ← member.alike.id_eq, registered]
      rw [Store.register, Store.register, registered, alsoRegistered]
      exact .error cause
  | ok issued =>
      rcases issued with ⟨token, handles⟩
      have alsoRegistered : second.handles.register other.id mode = .ok (token, handles) := by
        rw [← twin.handles_eq, ← member.alike.id_eq, registered]
      have firstEq := register_eq_ok_iff.mpr ⟨handles, registered, rfl⟩
      have secondEq := register_eq_ok_iff.mpr ⟨handles, alsoRegistered, rfl⟩
      have fills := HandleTable.register_fills twin.first_coherent.sound registered
      have secondMem : other.id ∈ second.heap.objects := member.alike.id_eq ▸ member.second_mem
      rw [firstEq, secondEq]
      refine .ok ⟨rfl, ?_⟩
      rintro rfl
      refine ⟨twin.first_coherent.register member.first_mem firstEq,
        twin.second_coherent.register secondMem secondEq, rfl, twin.running_eq, twin.kept_eq,
        twin.nextNumber_eq, ?_, ?_⟩
      · intro found cell cellEq
        change handles.cell? found = some cell at cellEq
        rw [fills.cell?_eq] at cellEq
        split at cellEq
        · cases cellEq
          rfl
        · exact twin.owning found cell cellEq
      · intro id positive
        change Option.Rel AlikeContent ((first.heap.addReference object.id).content? id)
          ((second.heap.addReference other.id).content? id)
        rw [Heap.content?_addReference, Heap.content?_addReference]
        by_cases atObject : id = object.id
        · rw [atObject]
          exact member.content
        · refine twin.content id ?_
          change 0 < handles.owners id + first.running.count id + first.kept.count id at positive
          rw [fills.owners_eq id, if_neg fun owned => atObject owned.2] at positive
          exact positive

end Store

end ObjectBridge
