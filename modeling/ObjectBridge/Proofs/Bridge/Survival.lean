import ObjectBridge.Proofs.Bridge.Valid
import ObjectBridge.Proofs.Heap.Contents

/-!
# What outlives a call

A token leads to its cell until a step releases it, which the journal tells, however
many handles are issued meanwhile: a slot that is full is not given away.  The receiver
of a call in progress stays in the heap, so it is still there when the call ends, and a
token that leads to it before the call does after, unless it was released during the
call.
-/

namespace ObjectBridge

/-! ## Tokens -/

namespace HandleTable

variable {table after : HandleTable} {token : Token} {cell : Cell}

/-- A token that is issued led nowhere. -/
theorem Fills.cell?_eq_none (fills : table.Fills after token cell) : table.cell? token = none := by
  obtain ⟨index, indexEq, slotEq, _⟩ := fills
  rw [← Option.not_isSome_iff_eq_none, Option.isSome_iff_exists]
  rintro ⟨found, foundEq⟩
  obtain ⟨position, positionEq, foundSlot⟩ := cell?_eq_some_iff.mp foundEq
  obtain rfl : position = index := Option.some.inj (positionEq.symm.trans indexEq)
  rw [slotEq] at foundSlot
  simp at foundSlot

end HandleTable

namespace Store

variable {store after : Store} {effect : Effect} {token : Token} {cell : Cell}

/-- Only the release of a token takes its cell. -/
theorem Change.cell?_eq_some (change : store.Change effect after) (sound : store.handles.Sound)
    (cellEq : store.handles.cell? token = some cell) (kept : effect ≠ .released token) :
    after.handles.cell? token = some cell := by
  cases change with
  | told events => exact cellEq
  | wrote id state => exact cellEq
  | entered resolved => exact cellEq
  | left =>
      obtain ⟨_, _, leaveEq⟩ := store.leave_eq
      rw [leaveEq]
      exact cellEq
  | @released other _ released =>
      have different : token ≠ other := fun same => kept (same ▸ rfl)
      obtain ⟨handles, found, tableReleased, foundEq, rfl⟩ := release_eq_ok_iff.mp released
      obtain ⟨_, _, dropEq⟩ :=
        (({ store with handles } : Store).tell (.released other)).dropCell_eq (some found)
      have empties := HandleTable.release_empties foundEq tableReleased
      rw [dropEq]
      exact (empties.cell?_eq token).trans ((if_neg different).trans cellEq)
  | collected =>
      obtain ⟨_, _, _, _, collectEq⟩ := store.collect_eq
      rw [collectEq]
      exact cellEq
  | allocated allocates =>
      obtain ⟨_, _, _, _, _, rfl⟩ := exists_of_allocate allocates
      exact cellEq
  | issued allocates registered =>
      obtain ⟨_, _, _, _, _, rfl⟩ := exists_of_allocate allocates
      obtain ⟨_, _, tableRegistered, rfl⟩ := exists_of_register registered
      have fills := HandleTable.register_fills sound tableRegistered
      refine (fills.cell?_eq token).trans ((if_neg ?_).trans cellEq)
      rintro rfl
      rw [fills.cell?_eq_none] at cellEq
      contradiction

/-- The journal tells of the release of a token. -/
theorem Change.released_mem {events : Array Event} (change : store.Change (.released token) after)
    (journalEq : after.journal = store.journal ++ events) : .released token ∈ events := by
  cases change with
  | released released =>
      obtain ⟨_, _, _, _, rfl⟩ := exists_of_release released
      have same : store.journal ++ #[.released token] = store.journal ++ events :=
        Array.push_eq_append.symm.trans journalEq
      rw [← (Array.append_right_inj _).mp same]
      exact Array.mem_singleton.mpr rfl

end Store

namespace Machine

variable {first last : Machine} {history : List Effect} {token : Token} {cell : Cell}

/-- A token keeps its cell in every run that does not tell of its release. -/
theorem Reaches.cell?_eq_some (reaches : Reaches first history last) (valid : first.Valid)
    (cellEq : first.bridge.store.handles.cell? token = some cell) {events : Array Event}
    (journalEq : last.bridge.store.journal = first.bridge.store.journal ++ events)
    (kept : .released token ∉ events) : last.bridge.store.handles.cell? token = some cell := by
  induction reaches generalizing events with
  | refl => exact cellEq
  | @tail _ middle last effect earlier step ih =>
      obtain ⟨early, earlyEq⟩ := earlier.journal_eq
      obtain ⟨late, lateEq⟩ := step.change.grows.2
      obtain rfl : early ++ late = events := by
        refine (Array.append_right_inj first.bridge.store.journal).mp ?_
        rw [← Array.append_assoc, ← earlyEq, ← lateEq, journalEq]
      rw [Array.mem_append, not_or] at kept
      have sound := (earlier.valid valid).coherent.sound
      refine step.change.cell?_eq_some sound (ih earlyEq kept.1) ?_
      rintro rfl
      exact kept.2 (step.change.released_mem lateEq)

end Machine

namespace Store

variable {store : Store} {token : Token} {id : ObjectId}

/-- A token that leads to an object has a cell of it. -/
theorem exists_cell?_of_resolveId (resolved : store.resolveId token = .ok id) :
    ∃ mode, store.handles.cell? token = some ⟨mode, id⟩ := by
  cases cellEq : store.handles.cell? token with
  | none =>
      rw [resolveId_of_cell?_eq_none cellEq] at resolved
      contradiction
  | some cell =>
      rcases cell with ⟨mode, object⟩
      refine ⟨mode, ?_⟩
      simp only [resolveId, HandleTable.resolve, cellEq] at resolved
      cases mode with
      | owning =>
          cases resolved
          rfl
      | weak =>
          dsimp only at resolved
          split at resolved
          · cases resolved
            rfl
          · contradiction

/-- A cell of an object in the heap leads to it, whatever its mode. -/
theorem Coherent.resolveId_of_mem (coherent : store.Coherent) {mode : HandleMode}
    (cellEq : store.handles.cell? token = some ⟨mode, id⟩) (member : id ∈ store.heap.objects) :
    store.resolveId token = .ok id := by
  cases mode with
  | owning => exact (coherent.resolveId_owning cellEq).1
  | weak => rw [coherent.resolveId_weak cellEq, if_pos member]

end Store

/-! ## The end of a call -/

/-- What the end of a call leaves as it is: everything but which calls are in progress,
and the references that the call held. -/
structure Store.Left (before after : Store) : Prop where
  handles_eq : after.handles = before.handles
  objects_eq : after.heap.objects = before.heap.objects
  content?_eq : ∀ id, after.heap.content? id = before.heap.content? id
  statistics_eq : after.heap.statistics = before.heap.statistics
  sinceCollection_eq : after.heap.sinceCollection = before.heap.sinceCollection
  nextNumber_eq : after.heap.nextNumber = before.heap.nextNumber
  running_eq : after.running = before.running.tail
  dropped_eq : after.dropped = before.dropped
  journal_eq : after.journal = before.journal

theorem Store.Coherent.left {store : Store} (coherent : store.Coherent) :
    store.Left store.leave := by
  have contents := coherent.content?_leave
  have droppedEq := coherent.dropped_leave
  obtain ⟨_, _, leaveEq⟩ := store.leave_eq
  rw [leaveEq] at contents droppedEq ⊢
  exact ⟨rfl, rfl, contents, rfl, rfl, rfl, rfl, droppedEq, rfl⟩

namespace Machine

variable {bridge : Bridge} {work : Bridge.Invocation} {frames : List Frame}

/-- The receiver of the innermost call is in the heap. -/
theorem Valid.receiver_mem (valid : Valid ⟨bridge, .invocation work :: frames⟩) :
    work.receiver ∈ bridge.store.heap.objects := by
  refine valid.coherent.counts.mem_of_outside _ (valid.outside_pos_iff.mpr (.inr ?_))
  exact ⟨_, List.mem_cons_self, rfl⟩

end Machine

end ObjectBridge
