import ObjectBridge.Proofs.Handle.Sound
import ObjectBridge.Proofs.Twin.Related

/-!
# Handle tables that differ in their modes

The owning version of a table has the same slots, generations and objects, with all its
handles owning.  Tables with the same owning version issue the same tokens, whatever the
modes of the new handles, release the same tokens, and lead by them to the same objects:
which slot is taken or emptied never depends on how a cell refers to its object.
-/

namespace ObjectBridge

/-- The cell of an owning handle of the same object. -/
def Cell.owning (cell : Cell) : Cell := { cell with mode := .owning }

/-- The slot with an owning handle, if it has one. -/
def Slot.owning (slot : Slot) : Slot := { slot with cell := slot.cell.map Cell.owning }

namespace HandleTable

variable {table other : HandleTable}

/-- The table with all its handles owning. -/
def owning (table : HandleTable) : HandleTable :=
  { table with slots := table.slots.map Slot.owning }

/-! ## Owning versions -/

theorem cell?_owning (table : HandleTable) (token : Token) :
    table.owning.cell? token = (table.cell? token).map Cell.owning := by
  cases indexEq : token.index? with
  | none => simp [cell?, indexEq]
  | some index =>
      cases slotEq : table.slots[index]? with
      | none => simp [cell?, owning, indexEq, slotEq]
      | some slot =>
          by_cases generationEq : slot.generation = token.generation
          · simp [cell?, owning, indexEq, slotEq, Slot.owning, generationEq]
          · simp [cell?, owning, indexEq, slotEq, Slot.owning, generationEq]

private theorem generation_slotAt_owning (table : HandleTable) (index : Nat) :
    (table.owning.slotAt index).generation = (table.slotAt index).generation := by
  cases slotEq : table.slots[index]? with
  | none => simp [slotAt, owning, List.getD_eq_getElem?_getD, slotEq]
  | some slot => simp [slotAt, owning, List.getD_eq_getElem?_getD, slotEq, Slot.owning]

/-- A handle is issued as an owning one is by the owning version. -/
theorem register_owning (table : HandleTable) (object : ObjectId) (mode : HandleMode) :
    table.owning.register object .owning =
      (table.register object mode).map fun (token, after) => (token, after.owning) := by
  cases freeEq : table.free with
  | cons index rest =>
      have owningFree : table.owning.free = index :: rest := freeEq
      have generationEq := table.generation_slotAt_owning index
      simp only [slotAt] at generationEq
      simp only [register, freeEq, owningFree, generationEq, Except.map]
      simp [owning, List.map_set, Slot.owning, Cell.owning]
  | nil =>
      have owningFree : table.owning.free = [] := freeEq
      have lengthEq : table.owning.slots.length = table.slots.length := List.length_map _
      simp only [register, freeEq, owningFree, lengthEq]
      split
      · rfl
      · simp [Except.map, owning, Slot.owning, Cell.owning]

theorem release_owning (table : HandleTable) (token : Token) :
    table.owning.release token = (table.release token).map owning := by
  have owningCell := table.cell?_owning token
  cases cellEq : table.cell? token with
  | none =>
      rw [cellEq] at owningCell
      simp [release, owningCell, cellEq, Except.map]
  | some cell =>
      rw [cellEq] at owningCell
      cases indexEq : token.index? with
      | none => simp [release, owningCell, cellEq, indexEq, Except.map]
      | some index =>
          simp only [release, owningCell, cellEq, indexEq, Option.map_some, Except.map]
          simp [owning, List.map_set, Slot.owning]

/-! ## Tables with the same owning version -/

/-- Tokens lead to the same objects. -/
theorem object?_eq (owningEq : table.owning = other.owning) (token : Token) :
    (table.cell? token).map (·.object) = (other.cell? token).map (·.object) := by
  have objectEq (any : HandleTable) :
      (any.cell? token).map (·.object) = (any.owning.cell? token).map (·.object) := by
    rw [cell?_owning, Option.map_map]
    rfl
  rw [objectEq table, objectEq other, owningEq]

theorem register_alike (owningEq : table.owning = other.owning) (object : ObjectId)
    (mode otherMode : HandleMode) :
    Alike (fun left right => left.1 = right.1 ∧ left.2.owning = right.2.owning)
      (table.register object mode) (other.register object otherMode) := by
  have mapped := table.register_owning object mode
  rw [owningEq, register_owning other object otherMode] at mapped
  exact (Alike.of_map_eq mapped.symm).imp fun _ _ pairEq => Prod.mk.inj pairEq

theorem release_alike (owningEq : table.owning = other.owning) (token : Token) :
    Alike (fun left right => left.owning = right.owning) (table.release token)
      (other.release token) := by
  have mapped := table.release_owning token
  rw [owningEq, release_owning] at mapped
  exact .of_map_eq mapped.symm

end HandleTable

end ObjectBridge
