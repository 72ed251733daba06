import ObjectBridge.Proofs.Handle.Slots

/-!
# Issuing and releasing handles

Issuing a handle fills an empty slot under a token of the slot's generation, and
releasing a handle empties its slot and moves the slot on by one generation.
Both are stated as relations between two tables, from which everything else
about them follows, and both keep the books of the table in order: the list of
empty slots, the number of live handles and the limits of a token's halves.
-/

namespace ObjectBridge

/-- How many handles live in a slot. -/
def Slot.occupancy (slot : Slot) : Nat :=
  if slot.cell.isSome then 1 else 0

namespace HandleTable

variable {table after : HandleTable} {token other : Token} {cell : Cell}

/-- The books of a table are in order. -/
structure Sound (table : HandleTable) : Prop where
  length_le : table.slots.length ≤ Token.maxSlots
  generation_lt : ∀ index, (table.slotAt index).generation < Token.generations
  free_nodup : table.free.Nodup
  mem_free_iff : ∀ index, index ∈ table.free ↔
    index < table.slots.length ∧ (table.slotAt index).cell = none
  live_eq : table.live = table.total Slot.occupancy

theorem sound_empty : empty.Sound where
  length_le := Nat.zero_le _
  generation_lt index := by
    simp [empty, slotAt, Token.generations]
  free_nodup := List.nodup_nil
  mem_free_iff := by simp [empty]
  live_eq := rfl

/-- A cell came into an empty slot under the token of the slot's generation. -/
def Fills (table after : HandleTable) (token : Token) (cell : Cell) : Prop :=
  ∃ index, token.index? = some index ∧
    table.slotAt index = ⟨token.generation, none⟩ ∧
    table.Updates after index ⟨token.generation, some cell⟩

/-- The cell of a token left its slot, which moved on to its next generation. -/
def Empties (table after : HandleTable) (token : Token) (cell : Cell) : Prop :=
  ∃ index, token.index? = some index ∧
    table.slotAt index = ⟨token.generation, some cell⟩ ∧
    table.Updates after index ⟨(token.generation + 1) % Token.generations, none⟩

/-! ## Issuing -/

theorem register_of_cons {object : ObjectId} {mode : HandleMode} {index : Nat}
    {rest : List Nat} (freeEq : table.free = index :: rest) :
    table.register object mode =
      .ok (Token.ofSlot index (table.slotAt index).generation,
        ⟨table.slots.set index ⟨(table.slotAt index).generation, some ⟨mode, object⟩⟩,
          rest, table.live + 1⟩) := by
  simp [register, freeEq, slotAt]

theorem register_of_nil {object : ObjectId} {mode : HandleMode}
    (freeEq : table.free = []) (room : table.slots.length < Token.maxSlots) :
    table.register object mode =
      .ok (Token.ofSlot table.slots.length 0,
        ⟨table.slots ++ [⟨0, some ⟨mode, object⟩⟩], [], table.live + 1⟩) := by
  simp [register, freeEq, Nat.not_le_of_lt room]

/-- Issuing fails exactly if all slots are full and no slot can be added. -/
theorem register_eq_error_iff {object : ObjectId} {mode : HandleMode} {cause : HandleError} :
    table.register object mode = .error cause ↔
      table.free = [] ∧ Token.maxSlots ≤ table.slots.length ∧
        cause = .exhausted table.live := by
  cases freeEq : table.free with
  | cons index rest => simp [register_of_cons freeEq]
  | nil =>
      by_cases room : table.slots.length < Token.maxSlots
      · simp [register_of_nil freeEq room, room]
      · have full := Nat.le_of_not_lt room
        simp [register, freeEq, full, eq_comm]

theorem room_of_register {object : ObjectId} {mode : HandleMode}
    (freeEq : table.free = []) (registered : table.register object mode = .ok (token, after)) :
    table.slots.length < Token.maxSlots := by
  by_contra room
  have failed : table.register object mode = .error (.exhausted table.live) :=
    register_eq_error_iff.mpr ⟨freeEq, Nat.le_of_not_lt room, rfl⟩
  rw [failed] at registered
  contradiction

theorem register_fills (sound : table.Sound) {object : ObjectId} {mode : HandleMode}
    (registered : table.register object mode = .ok (token, after)) :
    table.Fills after token ⟨mode, object⟩ := by
  cases freeEq : table.free with
  | cons index rest =>
      rw [register_of_cons freeEq] at registered
      cases registered
      obtain ⟨present, vacant⟩ := (sound.mem_free_iff index).mp (freeEq ▸ List.mem_cons_self)
      have indexLt : index < Token.maxSlots := present.trans_le sound.length_le
      have generationLt := sound.generation_lt index
      refine ⟨index, Token.index?_ofSlot indexLt generationLt, ?_, ?_⟩
      · rw [Token.generation_ofSlot indexLt generationLt, ← vacant]
      · rw [Token.generation_ofSlot indexLt generationLt]
        exact updates_set present _ _ _
  | nil =>
      have indexLt := room_of_register freeEq registered
      have generationLt : 0 < Token.generations := by decide
      rw [register_of_nil freeEq indexLt] at registered
      cases registered
      refine ⟨table.slots.length, Token.index?_ofSlot indexLt generationLt, ?_, ?_⟩
      · rw [Token.generation_ofSlot indexLt generationLt, slotAt_of_length_le le_rfl]
      · rw [Token.generation_ofSlot indexLt generationLt]
        exact updates_append table _ _ _

/-- Filling the slot that was freed last keeps a table sound. -/
private theorem Sound.fill (sound : table.Sound) {index : Nat} {rest : List Nat}
    (freeEq : table.free = index :: rest) (content : Cell) :
    (⟨table.slots.set index ⟨(table.slotAt index).generation, some content⟩, rest,
      table.live + 1⟩ : HandleTable).Sound := by
  have liveEq := sound.live_eq
  obtain ⟨present, vacant⟩ := (sound.mem_free_iff index).mp (freeEq ▸ List.mem_cons_self)
  have freeNodup := sound.free_nodup
  rw [freeEq, List.nodup_cons] at freeNodup
  have updates := updates_set present
    ⟨(table.slotAt index).generation, some content⟩ rest (table.live + 1)
  refine ⟨?_, ?_, freeNodup.2, ?_, ?_⟩
  · simpa using sound.length_le
  · intro position
    rw [updates.slotAt_eq]
    split
    · exact sound.generation_lt index
    · exact sound.generation_lt position
  · intro position
    rw [updates.slotAt_eq]
    by_cases atIndex : position = index
    · simp [atIndex, freeNodup.1]
    · have memIff := sound.mem_free_iff position
      rw [freeEq, List.mem_cons] at memIff
      simpa [atIndex] using memIff
  · have totalEq := updates.total_eq Slot.occupancy rfl
    simp only [Slot.occupancy, vacant] at totalEq liveEq
    simpa [← liveEq] using totalEq.symm

/-- Adding a slot to a table without free ones keeps it sound. -/
private theorem Sound.extend (sound : table.Sound) (freeEq : table.free = [])
    (room : table.slots.length < Token.maxSlots) (content : Cell) :
    (⟨table.slots ++ [⟨0, some content⟩], [], table.live + 1⟩ : HandleTable).Sound := by
  have liveEq := sound.live_eq
  have updates := updates_append table ⟨0, some content⟩ [] (table.live + 1)
  refine ⟨?_, ?_, List.nodup_nil, ?_, ?_⟩
  · simpa using Nat.succ_le_of_lt room
  · intro position
    rw [updates.slotAt_eq]
    split
    · exact Nat.two_pow_pos 32
    · exact sound.generation_lt position
  · intro position
    rw [updates.slotAt_eq]
    by_cases atEnd : position = table.slots.length
    · simp [atEnd]
    · have memIff := sound.mem_free_iff position
      rw [freeEq] at memIff
      simp only [List.not_mem_nil, false_iff, not_and] at memIff
      simp only [List.not_mem_nil, if_neg atEnd, List.length_append,
        List.length_singleton, false_iff, not_and]
      intro positionLt
      exact memIff (by omega)
  · have totalEq := updates.total_eq Slot.occupancy rfl
    rw [slotAt_of_length_le le_rfl] at totalEq
    simp only [Slot.occupancy] at totalEq liveEq
    simpa [← liveEq] using totalEq.symm

theorem Sound.register (sound : table.Sound) {object : ObjectId} {mode : HandleMode}
    (registered : table.register object mode = .ok (token, after)) : after.Sound := by
  cases freeEq : table.free with
  | cons index rest =>
      rw [register_of_cons freeEq] at registered
      cases registered
      exact sound.fill freeEq ⟨mode, object⟩
  | nil =>
      have room := room_of_register freeEq registered
      rw [register_of_nil freeEq room] at registered
      cases registered
      exact sound.extend freeEq room ⟨mode, object⟩

/-! ## Releasing -/

theorem release_of_cell? {index : Nat} (indexEq : token.index? = some index)
    (cellEq : table.cell? token = some cell) :
    table.release token =
      .ok ⟨table.slots.set index ⟨(token.generation + 1) % Token.generations, none⟩,
        index :: table.free, table.live - 1⟩ := by
  simp [release, indexEq, cellEq]

/-- Releasing fails exactly on the tokens that lead to no cell. -/
theorem release_eq_error_iff {cause : HandleError} :
    table.release token = .error cause ↔
      table.cell? token = none ∧ cause = .invalid token.raw := by
  cases cellEq : table.cell? token with
  | none => simp [release, cellEq, eq_comm]
  | some cell =>
      obtain ⟨index, indexEq, _⟩ := cell?_eq_some_iff.mp cellEq
      simp [release_of_cell? indexEq cellEq]

theorem release_empties (cellEq : table.cell? token = some cell)
    (released : table.release token = .ok after) : table.Empties after token cell := by
  obtain ⟨index, indexEq, slotEq⟩ := cell?_eq_some_iff.mp cellEq
  have present : index < table.slots.length :=
    lt_length_of_cell_eq_some (congrArg Slot.cell slotEq)
  rw [release_of_cell? indexEq cellEq] at released
  cases released
  exact ⟨index, indexEq, slotEq, updates_set present _ _ _⟩

theorem cell?_isSome_of_release (released : table.release token = .ok after) :
    ∃ cell, table.cell? token = some cell := by
  cases cellEq : table.cell? token with
  | none =>
      rw [release_eq_error_iff.mpr ⟨cellEq, rfl⟩] at released
      contradiction
  | some cell => exact ⟨cell, rfl⟩

theorem Sound.release (sound : table.Sound) (released : table.release token = .ok after) :
    after.Sound := by
  obtain ⟨cell, cellEq⟩ := cell?_isSome_of_release released
  obtain ⟨index, indexEq, slotEq⟩ := cell?_eq_some_iff.mp cellEq
  have present : index < table.slots.length :=
    lt_length_of_cell_eq_some (congrArg Slot.cell slotEq)
  rw [release_of_cell? indexEq cellEq] at released
  cases released
  have updates := updates_set present
    ⟨(token.generation + 1) % Token.generations, none⟩ (index :: table.free) (table.live - 1)
  refine ⟨?_, ?_, ?_, ?_, ?_⟩
  · simpa using sound.length_le
  · intro position
    rw [updates.slotAt_eq]
    split
    · exact Nat.mod_lt _ (Nat.two_pow_pos 32)
    · exact sound.generation_lt position
  · rw [List.nodup_cons, sound.mem_free_iff, slotEq]
    exact ⟨fun vacant => by simp at vacant, sound.free_nodup⟩
  · intro position
    rw [updates.slotAt_eq, List.mem_cons, sound.mem_free_iff]
    by_cases atIndex : position = index
    · simp [atIndex, present]
    · simp [atIndex]
  · have totalEq := updates.total_eq Slot.occupancy rfl
    have liveEq := sound.live_eq
    rw [slotEq] at totalEq
    simp only [Slot.occupancy, Option.isSome_some, if_true, Option.isSome_none,
      Bool.false_eq_true, if_false] at totalEq liveEq
    change table.live - 1 = _
    omega

/-! ## What the changes do to tokens -/

theorem Fills.cell?_eq (fills : table.Fills after token cell) (other : Token) :
    after.cell? other = if other = token then some cell else table.cell? other := by
  obtain ⟨index, indexEq, slotEq, updates⟩ := fills
  by_cases same : other = token
  · rw [if_pos same, same, cell?_eq_some_iff]
    exact ⟨index, indexEq, by rw [updates.slotAt_eq, if_pos rfl]⟩
  · rw [if_neg same]
    exact updates.cell?_of_ne indexEq (by rw [slotEq]) (.inl rfl) same

theorem Empties.cell?_eq (empties : table.Empties after token cell) (other : Token) :
    after.cell? other = if other = token then none else table.cell? other := by
  obtain ⟨index, indexEq, slotEq, updates⟩ := empties
  by_cases same : other = token
  · rw [if_pos same, same, ← Option.not_isSome_iff_eq_none, Option.isSome_iff_exists]
    rintro ⟨found, foundEq⟩
    obtain ⟨position, positionEq, foundSlot⟩ := cell?_eq_some_iff.mp foundEq
    obtain rfl : position = index := Option.some.inj (positionEq.symm.trans indexEq)
    rw [updates.slotAt_eq, if_pos rfl] at foundSlot
    simp at foundSlot
  · rw [if_neg same]
    exact updates.cell?_of_ne indexEq (by rw [slotEq]) (.inr rfl) same

theorem Fills.total_eq (fills : table.Fills after token cell) (measure : Slot → Nat)
    (absentZero : measure ⟨0, none⟩ = 0) :
    after.total measure + measure ⟨token.generation, none⟩ =
      table.total measure + measure ⟨token.generation, some cell⟩ := by
  obtain ⟨index, _, slotEq, updates⟩ := fills
  rw [← slotEq]
  exact updates.total_eq measure absentZero

theorem Empties.total_eq (empties : table.Empties after token cell) (measure : Slot → Nat)
    (absentZero : measure ⟨0, none⟩ = 0) :
    after.total measure + measure ⟨token.generation, some cell⟩ =
      table.total measure + measure ⟨(token.generation + 1) % Token.generations, none⟩ := by
  obtain ⟨index, _, slotEq, updates⟩ := empties
  rw [← slotEq]
  exact updates.total_eq measure absentZero

/-- One more handle is live. -/
theorem Sound.live_register (sound : table.Sound) {object : ObjectId} {mode : HandleMode}
    (registered : table.register object mode = .ok (token, after)) :
    after.live = table.live + 1 := by
  have occupancyEq := (register_fills sound registered).total_eq Slot.occupancy rfl
  rw [(sound.register registered).live_eq, sound.live_eq]
  exact occupancyEq

end HandleTable

end ObjectBridge
