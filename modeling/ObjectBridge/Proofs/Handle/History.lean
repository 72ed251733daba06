import Mathlib.Order.Bounds.Basic
import ObjectBridge.Proofs.Handle.Refinement

/-!
# Handle tables and what was asked of them

The four parts of a handle table stay in step: its list of free indices, its count of live
handles, the generations of its slots and their number.  What they have to be is said here in
terms of the calls on the table and their answers: how many handles were issued, how many were
released, from which slot, and how many were live at once.  No limit on the calls is needed,
so generations may start anew and the table may be exhausted.
-/

namespace ObjectBridge

/-- A call on a handle table with its answer. -/
structure TableEntry where
  call : TableCall
  answer : TableAnswer

namespace TableEntry

/-- Whether a handle was issued. -/
def issues (entry : TableEntry) : Bool :=
  match entry.answer with
  | .registered (.ok _) => true
  | _ => false

/-- Whether a handle was released. -/
def releases (entry : TableEntry) : Bool :=
  match entry.answer with
  | .released (.ok _) => true
  | _ => false

/-- Whether a handle that lived in a slot was released. -/
def releasesFrom (index : Nat) (entry : TableEntry) : Bool :=
  match entry.call with
  | .release token => token.index? == some index && entry.releases
  | _ => false

/-- How many handles are live after entries: those that were issued and not released. -/
def liveAfter (log : List TableEntry) : Nat :=
  log.countP issues - log.countP releases

/-- The numbers of handles that were live at some time during entries. -/
def liveDuring (log : List TableEntry) : Set Nat :=
  {live | ∃ before, before <+: log ∧ liveAfter before = live}

theorem releasesFrom_eq_false {entry : TableEntry} {index : Nat}
    (kept : entry.releases = false) : entry.releasesFrom index = false := by
  rw [releasesFrom]
  split
  · rw [kept, Bool.and_false]
  · rfl

theorem liveDuring_nil : liveDuring [] = {0} := by
  ext live
  simp [liveDuring, liveAfter, eq_comm]

theorem liveDuring_concat (log : List TableEntry) (entry : TableEntry) :
    liveDuring (log ++ [entry]) = insert (liveAfter (log ++ [entry])) (liveDuring log) := by
  ext live
  simp only [liveDuring, Set.mem_ofPred_eq, Set.mem_insert_iff, List.prefix_concat_iff]
  constructor
  · rintro ⟨before, rfl | earlier, rfl⟩
    · exact .inl rfl
    · exact .inr ⟨before, earlier, rfl⟩
  · rintro (rfl | ⟨before, earlier, rfl⟩)
    · exact ⟨_, .inl rfl, rfl⟩
    · exact ⟨before, .inr earlier, rfl⟩

end TableEntry

namespace HandleTable

open TableEntry

variable {table after : HandleTable} {entry : TableEntry} {past : List TableEntry}

/-- The calls on a table with their answers, in order. -/
def log (table : HandleTable) (calls : List TableCall) : List TableEntry :=
  calls.zipWith TableEntry.mk (table.run calls).1

/-! ## What a call may do -/

/-- What a call may do to a table: fill the slot that was emptied last, add a slot because
there is no empty one, empty a slot, or nothing. -/
inductive Moves (table : HandleTable) : TableEntry → HandleTable → Prop
  | fill {object : ObjectId} {mode : HandleMode} {index : Nat} {rest : List Nat} :
      table.free = index :: rest →
      Moves table
        ⟨.register object mode,
          .registered (.ok (.ofSlot index (table.slotAt index).generation))⟩
        ⟨table.slots.set index ⟨(table.slotAt index).generation, some ⟨mode, object⟩⟩, rest,
          table.live + 1⟩
  | extend {object : ObjectId} {mode : HandleMode} :
      table.free = [] → table.slots.length < Token.maxSlots →
      Moves table
        ⟨.register object mode, .registered (.ok (.ofSlot table.slots.length 0))⟩
        ⟨table.slots ++ [⟨0, some ⟨mode, object⟩⟩], [], table.live + 1⟩
  | empty {token : Token} {index : Nat} {cell : Cell} :
      token.index? = some index → table.slotAt index = ⟨token.generation, some cell⟩ →
      Moves table ⟨.release token, .released (.ok ())⟩
        ⟨table.slots.set index ⟨(token.generation + 1) % Token.generations, none⟩,
          index :: table.free, table.live - 1⟩
  | stay {entry : TableEntry} :
      entry.issues = false → entry.releases = false → Moves table entry table

theorem moves_register {object : ObjectId} {mode : HandleMode} {token : Token}
    (registered : table.register object mode = .ok (token, after)) :
    table.Moves ⟨.register object mode, .registered (.ok token)⟩ after := by
  cases freeEq : table.free with
  | cons index rest =>
      rw [register_of_cons freeEq] at registered
      cases registered
      exact .fill freeEq
  | nil =>
      have room := room_of_register freeEq registered
      rw [register_of_nil freeEq room] at registered
      cases registered
      exact .extend freeEq room

theorem moves_release {token : Token} (released : table.release token = .ok after) :
    table.Moves ⟨.release token, .released (.ok ())⟩ after := by
  obtain ⟨cell, cellEq⟩ := cell?_isSome_of_release released
  obtain ⟨index, indexEq, slotEq⟩ := cell?_eq_some_iff.mp cellEq
  rw [release_of_cell? indexEq cellEq] at released
  cases released
  exact .empty indexEq slotEq

theorem moves_perform (table : HandleTable) (call : TableCall) :
    table.Moves ⟨call, (table.perform call).1⟩ (table.perform call).2 := by
  cases call with
  | register object mode =>
      cases registered : table.register object mode with
      | ok issued =>
          simp only [perform, registered]
          exact moves_register registered
      | error cause =>
          simp only [perform, registered]
          exact .stay rfl rfl
  | release token =>
      cases released : table.release token with
      | ok emptied =>
          simp only [perform, released]
          exact moves_release released
      | error cause =>
          simp only [perform, released]
          exact .stay rfl rfl
  | resolve alive token => exact .stay rfl rfl
  | mode token => exact .stay rfl rfl
  | count => exact .stay rfl rfl

/-! ## What a table knows of its history -/

/-- A table agrees with what was asked of it. -/
structure Recorded (table : HandleTable) (past : List TableEntry) : Prop where
  sound : table.Sound
  length_eq : table.live + table.free.length = table.slots.length
  issued_eq : table.live + past.countP releases = past.countP issues
  generation_eq : ∀ index,
    (table.slotAt index).generation = past.countP (releasesFrom index) % Token.generations
  peak : IsGreatest (liveDuring past) table.slots.length

theorem recorded_empty : empty.Recorded [] where
  sound := sound_empty
  length_eq := rfl
  issued_eq := rfl
  generation_eq index := rfl
  peak := by
    rw [liveDuring_nil]
    exact isGreatest_singleton

/-- What one more entry has to do to a table that agrees with the entries before. -/
theorem Recorded.concat (recorded : table.Recorded past) (afterSound : after.Sound)
    (lengthEq : after.live + after.free.length = after.slots.length)
    (liveEq : after.live + (if entry.releases then 1 else 0) =
      table.live + (if entry.issues then 1 else 0))
    (generationEq : ∀ index, (after.slotAt index).generation =
      ((table.slotAt index).generation + (if entry.releasesFrom index then 1 else 0)) %
        Token.generations)
    (slotsEq : after.slots.length = max after.live table.slots.length) :
    after.Recorded (past ++ [entry]) := by
  have issuedEq : after.live + (past ++ [entry]).countP releases =
      (past ++ [entry]).countP issues := by
    have earlierEq := recorded.issued_eq
    rw [List.countP_append, List.countP_append, List.countP_singleton, List.countP_singleton]
    omega
  refine ⟨afterSound, lengthEq, issuedEq, ?_, ?_⟩
  · intro index
    rw [generationEq, recorded.generation_eq, Nat.mod_add_mod, List.countP_append,
      List.countP_singleton]
  · have lastEq : after.live = liveAfter (past ++ [entry]) := by
      rw [liveAfter]
      omega
    rw [liveDuring_concat, ← lastEq, slotsEq]
    exact recorded.peak.insert after.live

/-- An entry that releases no handle leaves the generations of all slots as they are. -/
theorem Recorded.concat_of_kept (recorded : table.Recorded past) (afterSound : after.Sound)
    (kept : entry.releases = false)
    (lengthEq : after.live + after.free.length = after.slots.length)
    (liveEq : after.live = table.live + (if entry.issues then 1 else 0))
    (generationEq : ∀ index,
      (after.slotAt index).generation = (table.slotAt index).generation)
    (slotsEq : after.slots.length = max after.live table.slots.length) :
    after.Recorded (past ++ [entry]) := by
  refine recorded.concat afterSound lengthEq (by rw [kept]; exact liveEq) ?_ slotsEq
  intro index
  rw [generationEq, releasesFrom_eq_false kept, if_neg Bool.false_ne_true, Nat.add_zero,
    Nat.mod_eq_of_lt (recorded.sound.generation_lt index)]

/-- A table in which a slot has a cell has a live handle. -/
theorem Sound.live_pos (sound : table.Sound) {index generation : Nat} {cell : Cell}
    (slotEq : table.slotAt index = ⟨generation, some cell⟩) : 0 < table.live := by
  have slotMem := slotAt_mem (lt_length_of_cell_eq_some (congrArg Slot.cell slotEq))
  rw [sound.live_eq]
  calc
    0 < (table.slotAt index).occupancy := by rw [slotEq]; exact Nat.one_pos
    _ ≤ table.total Slot.occupancy := List.le_sum_of_mem (List.mem_map_of_mem slotMem)

theorem Recorded.move (recorded : table.Recorded past) (afterSound : after.Sound)
    (moves : table.Moves entry after) : after.Recorded (past ++ [entry]) := by
  have lengthEq := recorded.length_eq
  cases moves with
  | @fill object mode index rest freeEq =>
      rw [freeEq, List.length_cons] at lengthEq
      obtain ⟨present, _⟩ := (recorded.sound.mem_free_iff index).mp (freeEq ▸ List.mem_cons_self)
      have updates := updates_set present
        ⟨(table.slotAt index).generation, some ⟨mode, object⟩⟩ rest (table.live + 1)
      refine recorded.concat_of_kept afterSound rfl ?_ rfl ?_ ?_
      · simp only [List.length_set]
        omega
      · intro position
        rw [updates.slotAt_eq]
        split
        · rename_i atIndex
          rw [atIndex]
        · rfl
      · simp only [List.length_set]
        omega
  | @extend object mode freeEq room =>
      rw [freeEq, List.length_nil] at lengthEq
      -- No slot is free, so the live handles fill them all and one more is a new peak.
      have updates := updates_append table ⟨0, some ⟨mode, object⟩⟩ [] (table.live + 1)
      refine recorded.concat_of_kept afterSound rfl ?_ rfl ?_ ?_
      · simp only [List.length_append, List.length_singleton, List.length_nil]
        omega
      · intro position
        rw [updates.slotAt_eq]
        split
        · rename_i atEnd
          rw [atEnd, slotAt_of_length_le le_rfl]
        · rfl
      · simp only [List.length_append, List.length_singleton]
        omega
  | @empty token index cell indexEq slotEq =>
      have present : index < table.slots.length :=
        lt_length_of_cell_eq_some (congrArg Slot.cell slotEq)
      have livePos := recorded.sound.live_pos slotEq
      have updates := updates_set present
        ⟨(token.generation + 1) % Token.generations, none⟩ (index :: table.free) (table.live - 1)
      refine recorded.concat afterSound ?_ ?_ ?_ ?_
      · simp only [List.length_set, List.length_cons]
        omega
      · change table.live - 1 + 1 = table.live + 0
        omega
      · intro position
        have fromSlot : releasesFrom position ⟨.release token, .released (.ok ())⟩ =
            (index == position) := by
          simp [releasesFrom, releases, indexEq]
        rw [updates.slotAt_eq, fromSlot]
        by_cases atIndex : position = index
        · simp [atIndex, slotEq]
        · simpa [atIndex, Ne.symm atIndex] using
            (Nat.mod_eq_of_lt (recorded.sound.generation_lt position)).symm
      · simp only [List.length_set]
        omega
  | stay issuesNot releasesNot =>
      refine recorded.concat_of_kept afterSound releasesNot lengthEq ?_ (fun _ => rfl) ?_
      · rw [issuesNot]
        rfl
      · omega

theorem Sound.perform (sound : table.Sound) (call : TableCall) :
    (table.perform call).2.Sound := by
  cases call with
  | register object mode =>
      cases registered : table.register object mode with
      | ok issued =>
          simp only [HandleTable.perform, registered]
          exact sound.register registered
      | error cause => simpa only [HandleTable.perform, registered] using sound
  | release token =>
      cases released : table.release token with
      | ok emptied =>
          simp only [HandleTable.perform, released]
          exact sound.release released
      | error cause => simpa only [HandleTable.perform, released] using sound
  | resolve alive token => exact sound
  | mode token => exact sound
  | count => exact sound

theorem Recorded.perform (recorded : table.Recorded past) (call : TableCall) :
    (table.perform call).2.Recorded (past ++ [⟨call, (table.perform call).1⟩]) :=
  recorded.move (recorded.sound.perform call) (table.moves_perform call)

/-- Calls in order. -/
theorem Recorded.run (calls : List TableCall) (recorded : table.Recorded past) :
    (table.run calls).2.Recorded (past ++ table.log calls) := by
  induction calls generalizing table past with
  | nil => simpa [log, HandleTable.run] using recorded
  | cons call rest ih =>
      have later := ih (recorded.perform call)
      rw [List.append_assoc] at later
      exact later

/-! ## Accounts -/

/-- A table accounts for what was asked of it. -/
structure AccountsFor (table : HandleTable) (past : List TableEntry) : Prop where
  free_nodup : table.free.Nodup
  /-- The free indices are those of the empty slots. -/
  mem_free_iff : ∀ index, index ∈ table.free ↔
    ∃ slot, table.slots[index]? = some slot ∧ slot.cell = none
  /-- The handles that are live are those in the slots that are not empty. -/
  live_eq_countP : table.live = table.slots.countP (·.cell.isSome)
  live_add_length : table.live + table.free.length = table.slots.length
  /-- The handles that are live are those that were issued and not released. -/
  live_add_released : table.live + past.countP releases = past.countP issues
  /-- A slot counts the handles that were released from it, until it starts anew. -/
  generation_eq : ∀ index slot, table.slots[index]? = some slot →
    slot.generation = past.countP (releasesFrom index) % Token.generations
  /-- There are as many slots as handles ever were live at once. -/
  peak : IsGreatest (liveDuring past) table.slots.length
  /-- A free index that is taken is that of an empty slot. -/
  taken : ∀ index rest, table.free = index :: rest →
    ∃ generation, table.slots[index]? = some ⟨generation, none⟩
  /-- Where a handle is released there is one to be counted off. -/
  counted : ∀ token after, table.release token = .ok after → 0 < table.live
  /-- A slot is added only if no other is empty. -/
  grows : ∀ object mode token after, table.register object mode = .ok (token, after) →
    table.slots.length < after.slots.length → ∀ slot ∈ table.slots, slot.cell ≠ none

theorem slotAt_eq_of_getElem? {index : Nat} {slot : Slot}
    (found : table.slots[index]? = some slot) : table.slotAt index = slot := by
  rw [slotAt, List.getD_eq_getElem?_getD, found, Option.getD_some]

theorem Sound.mem_free_iff_getElem? (sound : table.Sound) (index : Nat) :
    index ∈ table.free ↔ ∃ slot, table.slots[index]? = some slot ∧ slot.cell = none := by
  rw [sound.mem_free_iff]
  constructor
  · rintro ⟨present, vacant⟩
    have found := List.getElem?_eq_getElem present
    exact ⟨_, found, slotAt_eq_of_getElem? found ▸ vacant⟩
  · rintro ⟨slot, found, vacant⟩
    obtain ⟨present, _⟩ := List.getElem?_eq_some_iff.mp found
    exact ⟨present, by rw [slotAt_eq_of_getElem? found, vacant]⟩

theorem total_occupancy (table : HandleTable) :
    table.total Slot.occupancy = table.slots.countP (·.cell.isSome) := by
  rw [total]
  induction table.slots with
  | nil => rfl
  | cons slot rest ih =>
      rw [List.map_cons, List.sum_cons, ih, List.countP_cons, Slot.occupancy, Nat.add_comm]

theorem free_eq_nil_of_grown {object : ObjectId} {mode : HandleMode} {answer : TableAnswer}
    (moves : table.Moves ⟨.register object mode, answer⟩ after)
    (grown : table.slots.length < after.slots.length) : table.free = [] := by
  cases moves with
  | fill freeEq =>
      rw [List.length_set] at grown
      exact absurd grown (Nat.lt_irrefl _)
  | extend freeEq room => exact freeEq
  | stay => exact absurd grown (Nat.lt_irrefl _)

theorem Recorded.accountsFor (recorded : table.Recorded past) : table.AccountsFor past where
  free_nodup := recorded.sound.free_nodup
  mem_free_iff := recorded.sound.mem_free_iff_getElem?
  live_eq_countP := recorded.sound.live_eq.trans table.total_occupancy
  live_add_length := recorded.length_eq
  live_add_released := recorded.issued_eq
  generation_eq index slot found := by
    rw [← recorded.generation_eq, slotAt_eq_of_getElem? found]
  peak := recorded.peak
  taken index rest freeEq := by
    obtain ⟨⟨generation, cell⟩, found, vacant⟩ :=
      (recorded.sound.mem_free_iff_getElem? index).mp (freeEq ▸ List.mem_cons_self)
    cases vacant
    exact ⟨generation, found⟩
  counted token after released := by
    obtain ⟨cell, cellEq⟩ := cell?_isSome_of_release released
    obtain ⟨_, _, slotEq⟩ := cell?_eq_some_iff.mp cellEq
    exact recorded.sound.live_pos slotEq
  grows object mode token after registered grown slot slotMem vacant := by
    have freeEq := free_eq_nil_of_grown (moves_register registered) grown
    obtain ⟨index, found⟩ := List.mem_iff_getElem?.mp slotMem
    have listed := (recorded.sound.mem_free_iff_getElem? index).mpr ⟨slot, found, vacant⟩
    rw [freeEq] at listed
    exact List.not_mem_nil listed

/-- After every sequence of calls, with whatever tokens, a table accounts for them. -/
theorem tables_account_for_calls (calls : List TableCall) :
    (empty.run calls).2.AccountsFor (empty.log calls) :=
  (recorded_empty.run calls).accountsFor

end HandleTable

end ObjectBridge
