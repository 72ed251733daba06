import ObjectBridge.Handle.Table
import ObjectBridge.Heap.Statistics
import ObjectBridge.Reflect.Descriptor

/-!
# The heap

An object stays in memory as long as anything refers to it, and it counts the
references that do.  The heap refers to every object that it allocated, in the
order of their allocation, until a collection gives up the objects that nothing
but the heap refers to.  With a threshold above zero, an allocation first
collects when as many objects as the threshold says were allocated since the
last collection.
-/

namespace ObjectBridge

/-- An object: its number, its own type and its current state. -/
structure HeapObject where
  id : ObjectId
  type : TypeDescriptor
  state : ObjectState
  /-- How many references keep the object in memory, that of the heap among
  them. -/
  references : Nat

/-- The object with one reference less, unless that was the last one. -/
def HeapObject.withoutReference? (object : HeapObject) : Option HeapObject :=
  if object.references ≤ 1 then none
  else some { object with references := object.references - 1 }

/-- The objects in memory, those that the heap refers to, the books, and the
number that the next object gets. -/
structure Heap where
  /-- In ascending order of their numbers. -/
  memory : List HeapObject
  /-- In ascending order. -/
  objects : List ObjectId
  threshold : Nat
  sinceCollection : Nat
  totalAllocated : Nat
  totalCollected : Nat
  collections : Nat
  nextNumber : Nat

namespace Heap

/-- The heap that nothing was allocated in. -/
def empty (threshold : Nat) : Heap := ⟨[], [], threshold, 0, 0, 0, 0, 1⟩

/-! ## Memory -/

/-- The object with a number. -/
def find? (heap : Heap) (id : ObjectId) : Option HeapObject :=
  heap.memory.find? (·.id == id)

/-- Whether an object is in memory. -/
def isAlive (heap : Heap) (id : ObjectId) : Bool := (heap.find? id).isSome

/-- How many references lead to an object. -/
def references (heap : Heap) (id : ObjectId) : Nat :=
  ((heap.find? id).map (·.references)).getD 0

/-- Replace the state of an object. -/
def setState (heap : Heap) (id : ObjectId) (state : ObjectState) : Heap :=
  { heap with
    memory := heap.memory.map fun object =>
      if object.id = id then { object with state } else object }

/-- Refer to an object once more. -/
def addReference (heap : Heap) (id : ObjectId) : Heap :=
  { heap with
    memory := heap.memory.map fun object =>
      if object.id = id then { object with references := object.references + 1 } else object }

/-- Give up one reference to each object that loses one. -/
def dropReferences (heap : Heap) (loses : ObjectId → Bool) : Heap :=
  { heap with
    memory := heap.memory.filterMap fun object =>
      if loses object.id then object.withoutReference? else some object }

/-- The states of the objects that leave memory with the references that are
given up. -/
def lostStates (heap : Heap) (loses : ObjectId → Bool) : List ObjectState :=
  (heap.memory.filter fun object => loses object.id && object.references ≤ 1).map (·.state)

/-! ## Allocation and collection -/

/-- Whether the heap refers to an object. -/
def contains (heap : Heap) (id : ObjectId) : Bool := heap.objects.contains id

/-- The books. -/
def statistics (heap : Heap) : HeapStatistics :=
  ⟨heap.objects.length, heap.totalAllocated, heap.totalCollected, heap.collections⟩

/-- The objects that nothing but the heap refers to. -/
def garbage (heap : Heap) : List ObjectId :=
  heap.objects.filter fun id => heap.references id ≤ 1

/-- Strike the garbage off the heap and enter the collection in the books. -/
def sweep (heap : Heap) : Heap :=
  { heap with
    objects := heap.objects.filter fun id => 1 < heap.references id
    sinceCollection := 0
    totalCollected := heap.totalCollected + heap.garbage.length
    collections := heap.collections + 1 }

/-- Whether the next allocation collects first. -/
def isDue (heap : Heap) : Bool :=
  0 < heap.threshold && heap.threshold ≤ heap.sinceCollection

/-- The object that the next allocation makes.  Only the heap refers to it. -/
def nextObject (heap : Heap) (type : TypeDescriptor) (state : ObjectState) : HeapObject :=
  ⟨⟨heap.nextNumber⟩, type, state, 1⟩

/-- Add a new object. -/
def insert (heap : Heap) (type : TypeDescriptor) (state : ObjectState) : Heap :=
  { heap with
    memory := heap.memory ++ [heap.nextObject type state]
    objects := heap.objects ++ [⟨heap.nextNumber⟩]
    sinceCollection := heap.sinceCollection + 1
    totalAllocated := heap.totalAllocated + 1
    nextNumber := heap.nextNumber + 1 }

end Heap

end ObjectBridge
