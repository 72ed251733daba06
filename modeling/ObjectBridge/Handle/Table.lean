import ObjectBridge.Error.Cause
import ObjectBridge.Handle.Token

/-!
# The handle table

A table of slots, each with a generation and, while a handle lives in it, a cell
that says which object the handle refers to and how.  Issuing a handle fills the
slot that was emptied last, or appends a slot if none is empty; releasing it
empties the slot and moves it to the next generation, so a token that was
released never reaches the object that fills its slot later.

The table holds no objects: a cell names its object by number.  Whether an
object behind a weak cell still exists is for the owner of the objects to say.
-/

namespace ObjectBridge

/-- The number of an object; numbers are handed out in ascending order. -/
structure ObjectId where
  number : Nat
deriving DecidableEq, Repr, Inhabited

/-- What a live handle refers to, and how. -/
structure Cell where
  mode : HandleMode
  object : ObjectId
deriving DecidableEq, Repr

/-- A place for one handle at a time. -/
structure Slot where
  generation : Nat
  cell : Option Cell
deriving DecidableEq, Repr, Inhabited

/-- The slots of all handles ever issued, the indices of empty slots with the one
emptied last in front, and the number of live handles. -/
structure HandleTable where
  slots : List Slot
  free : List Nat
  live : Nat
deriving DecidableEq, Repr

namespace HandleTable

/-- The table without slots. -/
def empty : HandleTable := ⟨[], [], 0⟩

/-- Issue a handle. -/
def register (table : HandleTable) (object : ObjectId) (mode : HandleMode) :
    Except HandleError (Token × HandleTable) :=
  let cell : Cell := ⟨mode, object⟩
  match table.free with
  | index :: rest =>
      let generation := (table.slots.getD index ⟨0, none⟩).generation
      .ok (Token.ofSlot index generation,
        { slots := table.slots.set index ⟨generation, some cell⟩
          free := rest
          live := table.live + 1 })
  | [] =>
      let index := table.slots.length
      if Token.maxSlots ≤ index then .error (.exhausted table.live)
      else
        .ok (Token.ofSlot index 0,
          { slots := table.slots ++ [⟨0, some cell⟩]
            free := []
            live := table.live + 1 })

/-- The cell that a token leads to: that of its slot, in its generation. -/
def cell? (table : HandleTable) (token : Token) : Option Cell := do
  let index ← token.index?
  let slot ← table.slots[index]?
  if slot.generation = token.generation then slot.cell else none

/-- The object that a token leads to.  An object behind a weak handle has to be
`alive`. -/
def resolve (table : HandleTable) (alive : ObjectId → Bool) (token : Token) :
    Except HandleError ObjectId :=
  match table.cell? token with
  | none => .error (.invalid token.raw)
  | some ⟨.owning, object⟩ => .ok object
  | some ⟨.weak, object⟩ => if alive object then .ok object else .error (.collected token.raw)

/-- Take a handle back. -/
def release (table : HandleTable) (token : Token) : Except HandleError HandleTable :=
  match token.index?, table.cell? token with
  | some index, some _ =>
      .ok
        { slots := table.slots.set index ⟨(token.generation + 1) % Token.generations, none⟩
          free := index :: table.free
          live := table.live - 1 }
  | _, _ => .error (.invalid token.raw)

/-- How a live handle refers to its object. -/
def mode? (table : HandleTable) (token : Token) : Option HandleMode :=
  (table.cell? token).map (·.mode)

/-- The text of a table in diagnostic dumps. -/
def dump (table : HandleTable) : String :=
  "HandleTable \x7b live: " ++ toString table.live ++ " \x7d"

end HandleTable

end ObjectBridge
