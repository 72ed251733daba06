import ObjectBridge.Heap.Basic
import ObjectBridge.Journal

/-!
# The store

Heap and handle table together, with everything else that may refer to an
object: the calls in progress, each of which holds its receiver, and references
that the host keeps on its own.  Whoever begins or ceases to refer to an object
counts its references up or down.  A collection looks at these counts alone: it
gives up the objects that have no reference but that of the heap.
-/

namespace ObjectBridge

/-- Heap, handles and the other references to objects. -/
structure Store where
  heap : Heap
  handles : HandleTable
  /-- The receivers of the calls in progress, innermost first. -/
  running : List ObjectId
  /-- The references that the host keeps, one entry for each. -/
  kept : List ObjectId
  /-- The states of reclaimed objects. -/
  dropped : List ObjectState
  journal : Journal

namespace Store

/-- The store without objects. -/
def empty (threshold : Nat) : Store :=
  ⟨Heap.empty threshold, HandleTable.empty, [], [], [], #[]⟩

/-- Tell an event. -/
def tell (store : Store) (event : Event) : Store :=
  { store with journal := store.journal.push event }

/-! ## References -/

/-- Refer to an object once more. -/
def addReference (store : Store) (id : ObjectId) : Store :=
  { store with heap := store.heap.addReference id }

/-- Give up one reference to each object that loses one.  An object that loses its
last one is reclaimed. -/
def dropReferences (store : Store) (loses : ObjectId → Bool) : Store :=
  { store with
    heap := store.heap.dropReferences loses
    dropped := store.dropped ++ store.heap.lostStates loses }

/-- Give up one reference to an object. -/
def dropReference (store : Store) (id : ObjectId) : Store :=
  store.dropReferences (· == id)

/-- Replace the state of an object. -/
def setState (store : Store) (id : ObjectId) (state : ObjectState) : Store :=
  { store with heap := store.heap.setState id state }

/-- Keep a reference to an object. -/
def keep (store : Store) (id : ObjectId) : Store :=
  { store with kept := id :: store.kept }.addReference id

/-- Give a kept reference up. -/
def giveUp (store : Store) (id : ObjectId) : Store :=
  if store.kept.contains id then
    { store with kept := store.kept.erase id }.dropReference id
  else store

/-- Begin a call on an object. -/
def enter (store : Store) (id : ObjectId) : Store :=
  { store with running := id :: store.running }.addReference id

/-- End the innermost call. -/
def leave (store : Store) : Store :=
  match store.running with
  | [] => store
  | id :: rest => { store with running := rest }.dropReference id

/-! ## Allocation and collection -/

/-- Reclaim every object that nothing but the heap refers to. -/
def collect (store : Store) : CollectSummary × Store :=
  let garbage := store.heap.garbage
  let heap := store.heap.sweep
  let summary : CollectSummary := ⟨garbage.length, heap.objects.length⟩
  let swept := { store with heap }.dropReferences garbage.contains
  (summary,
    if garbage.isEmpty then swept
    else swept.tell (.reclaimed summary.collected summary.survivors))

/-- Add a new object to the heap. -/
def insert (store : Store) (type : TypeDescriptor) (state : ObjectState) : Store :=
  { store with heap := store.heap.insert type state }

/-- Allocate an object, collecting first if a collection is due. -/
def allocate (store : Store) (type : TypeDescriptor) (state : ObjectState) :
    HeapObject × Store :=
  let ready := if store.heap.isDue then store.collect.2 else store
  (ready.heap.nextObject type state, ready.insert type state)

/-! ## Handles -/

/-- Refer to an object as a new handle does. -/
def addHandle (store : Store) (id : ObjectId) : HandleMode → Store
  | .owning => store.addReference id
  | .weak => store

/-- Cease to refer to an object as a handle did. -/
def dropCell (store : Store) : Option Cell → Store
  | some ⟨.owning, id⟩ => store.dropReference id
  | _ => store

/-- Issue a handle for an object. -/
def register (store : Store) (object : HeapObject) (mode : HandleMode) :
    Except HandleError (Token × Store) :=
  (store.handles.register object.id mode).map fun (token, handles) =>
    (token, ({ store with handles }.addHandle object.id mode).tell
      (.registered mode token object.type.name object.id))

/-- The number of the object that a token leads to. -/
def resolveId (store : Store) (token : Token) : Except HandleError ObjectId :=
  store.handles.resolve store.heap.isAlive token

/-- The object that a token leads to. -/
def resolve (store : Store) (token : Token) : Except HandleError HeapObject :=
  match store.resolveId token with
  | .ok id =>
      match store.heap.find? id with
      | some object => .ok object
      | none => .error (.invalid token.raw)
  | .error cause => .error cause

/-- Release a handle. -/
def release (store : Store) (token : Token) : Except HandleError Store :=
  (store.handles.release token).map fun handles =>
    ({ store with handles }.tell (.released token)).dropCell (store.handles.cell? token)

/-- The states of the objects that vanish with the bridge, and of those that stay
until the host gives its references up. -/
def remains (store : Store) : List ObjectState × List ObjectState :=
  let (stay, vanish) := store.heap.memory.partition fun object => store.kept.contains object.id
  (vanish.map (·.state), stay.map (·.state))

end Store

end ObjectBridge
