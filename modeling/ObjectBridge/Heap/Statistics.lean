/-!
# Figures of the heap

The books that the heap keeps, and the outcome of one collection.
-/

namespace ObjectBridge

/-- The books of a heap. -/
structure HeapStatistics where
  liveObjects : Nat
  totalAllocated : Nat
  totalCollected : Nat
  collections : Nat
deriving DecidableEq, Repr

/-- The outcome of one collection. -/
structure CollectSummary where
  collected : Nat
  survivors : Nat
deriving DecidableEq, Repr

end ObjectBridge
