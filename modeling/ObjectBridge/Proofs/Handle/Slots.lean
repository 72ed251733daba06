import Mathlib.Algebra.BigOperators.Group.List.Basic
import ObjectBridge.Handle.Table
import ObjectBridge.Proofs.Handle.Packing

/-!
# Tables slot by slot

A slot that a table does not have yet behaves like an empty slot in generation
zero, so appending a slot and filling an empty one are the same change.  Issuing
and releasing a handle each change one slot; what that does to the cells that
tokens lead to, and to sums over the slots, is said here once.  `Sound` holds of
every table that these operations lead to.
-/

namespace ObjectBridge.HandleTable

variable {table after : HandleTable} {index : Nat} {token other : Token} {cell : Cell}

/-- The slot of an index.  A slot that does not exist is empty. -/
def slotAt (table : HandleTable) (index : Nat) : Slot :=
  table.slots.getD index ⟨0, none⟩

/-- The sum of a measure over the slots. -/
def total (table : HandleTable) (measure : Slot → Nat) : Nat :=
  (table.slots.map measure).sum

theorem slotAt_of_length_le (absent : table.slots.length ≤ index) :
    table.slotAt index = ⟨0, none⟩ := by
  simp [slotAt, List.getD_eq_getElem?_getD, List.getElem?_eq_none absent]

theorem slotAt_mem (present : index < table.slots.length) :
    table.slotAt index ∈ table.slots := by
  simp [slotAt, List.getD_eq_getElem?_getD, List.getElem?_eq_getElem present]

theorem lt_length_of_cell_eq_some (occupied : (table.slotAt index).cell = some cell) :
    index < table.slots.length := by
  by_contra absent
  rw [slotAt_of_length_le (Nat.le_of_not_lt absent)] at occupied
  contradiction

theorem cell?_empty : empty.cell? token = none := by
  rw [cell?]
  cases token.index? <;> rfl

/-- A token leads to a cell exactly if the cell is in its slot in its
generation. -/
theorem cell?_eq_some_iff :
    table.cell? token = some cell ↔
      ∃ index, token.index? = some index ∧
        table.slotAt index = ⟨token.generation, some cell⟩ := by
  cases indexEq : token.index? with
  | none => simp [cell?, indexEq]
  | some index =>
      cases slotEq : table.slots[index]? with
      | none =>
          simp [cell?, indexEq, slotEq, slotAt, List.getD_eq_getElem?_getD]
      | some slot =>
          rcases slot with ⟨generation, found⟩
          by_cases sameGeneration : generation = token.generation
          · simp [cell?, indexEq, slotEq, slotAt, List.getD_eq_getElem?_getD, sameGeneration]
          · simp [cell?, indexEq, slotEq, slotAt, List.getD_eq_getElem?_getD, sameGeneration]

theorem cell?_ofSlot (indexLt : index < Token.maxSlots)
    (generationLt : (table.slotAt index).generation < Token.generations) :
    table.cell? (Token.ofSlot index (table.slotAt index).generation) =
      (table.slotAt index).cell := by
  apply Option.ext
  intro cell
  rw [cell?_eq_some_iff]
  simp only [Token.index?_ofSlot indexLt generationLt,
    Token.generation_ofSlot indexLt generationLt, Option.some.injEq, exists_eq_left']
  constructor
  · intro slotEq
    rw [slotEq]
  · intro cellEq
    rw [← cellEq]

/-! ## Changing one slot -/

/-- The one slot in which two tables may differ, and what it holds afterwards. -/
structure Updates (table after : HandleTable) (index : Nat) (slot : Slot) : Prop where
  slotAt_eq : ∀ position,
    after.slotAt position = if position = index then slot else table.slotAt position
  /-- Sums change by what the slot contributes, if a slot that does not exist
  contributes nothing. -/
  total_eq : ∀ measure : Slot → Nat, measure ⟨0, none⟩ = 0 →
    after.total measure + measure (table.slotAt index) = table.total measure + measure slot

private theorem sum_map_set {α : Type} (measure : α → Nat) (entries : List α) (new : α) :
    ∀ {index : Nat} (present : index < entries.length),
      ((entries.set index new).map measure).sum + measure entries[index] =
        (entries.map measure).sum + measure new := by
  induction entries with
  | nil => simp
  | cons first rest ih =>
      intro index present
      cases index with
      | zero =>
          simp
          omega
      | succ index =>
          have restEq := ih (Nat.lt_of_succ_lt_succ present)
          simp only [List.set_cons_succ, List.map_cons, List.sum_cons, List.getElem_cons_succ]
          omega

theorem updates_set (present : index < table.slots.length) (slot : Slot) (free : List Nat)
    (live : Nat) : Updates table ⟨table.slots.set index slot, free, live⟩ index slot where
  slotAt_eq position := by
    by_cases atIndex : position = index
    · simp [slotAt, List.getD_eq_getElem?_getD, atIndex, present]
    · simp [slotAt, List.getD_eq_getElem?_getD, atIndex, Ne.symm atIndex]
  total_eq measure _ := by
    have setEq := sum_map_set measure table.slots slot present
    simpa [total, slotAt, List.getD_eq_getElem?_getD, present] using setEq

theorem updates_append (table : HandleTable) (slot : Slot) (free : List Nat) (live : Nat) :
    Updates table ⟨table.slots ++ [slot], free, live⟩ table.slots.length slot where
  slotAt_eq position := by
    rcases Nat.lt_trichotomy position table.slots.length with before | atEnd | beyond
    · simp [slotAt, List.getD_eq_getElem?_getD, List.getElem?_append_left before, before.ne]
    · simp [slotAt, List.getD_eq_getElem?_getD, atEnd]
    · rw [if_neg beyond.ne', slotAt_of_length_le beyond.le, slotAt_of_length_le]
      simp only [List.length_append, List.length_singleton]
      omega
  total_eq measure absentZero := by
    rw [slotAt_of_length_le le_rfl, absentZero]
    simp [total]

/-- Only tokens of the changed slot may lead elsewhere afterwards, and of these
only the one in the generation that was emptied or filled. -/
theorem Updates.cell?_of_ne {slot : Slot} (updates : Updates table after index slot)
    (indexEq : token.index? = some index)
    (before : (table.slotAt index).generation = token.generation)
    (afterwards : slot.generation = token.generation ∨ slot.cell = none)
    (notEqual : other ≠ token) : after.cell? other = table.cell? other := by
  apply Option.ext
  intro cell
  rw [cell?_eq_some_iff, cell?_eq_some_iff]
  have generationNe (otherIndex : other.index? = some index) :
      other.generation ≠ token.generation := by
    intro generationEq
    exact notEqual (Token.eq_of_index?_of_generation otherIndex indexEq generationEq)
  constructor
  · rintro ⟨position, positionEq, slotEq⟩
    rw [updates.slotAt_eq] at slotEq
    by_cases atIndex : position = index
    · rw [if_pos atIndex] at slotEq
      subst atIndex slot
      rcases afterwards with generationEq | vacant
      · exact absurd generationEq (generationNe positionEq)
      · contradiction
    · rw [if_neg atIndex] at slotEq
      exact ⟨position, positionEq, slotEq⟩
  · rintro ⟨position, positionEq, slotEq⟩
    by_cases atIndex : position = index
    · subst atIndex
      rw [slotEq] at before
      exact absurd before (generationNe positionEq)
    · exact ⟨position, positionEq, by rw [updates.slotAt_eq, if_neg atIndex, slotEq]⟩

end ObjectBridge.HandleTable
