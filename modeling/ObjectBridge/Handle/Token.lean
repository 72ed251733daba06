/-!
# Tokens

A token is what the host holds in place of an object: a 64-bit word other than
zero.  Its low half is one more than the index of a slot of the handle table,
its high half the generation of that slot when the token was issued.
-/

namespace ObjectBridge

/-- How a handle refers to its object. -/
inductive HandleMode where
  /-- The object is kept until the handle is released. -/
  | owning
  /-- The object is tracked and may be reclaimed. -/
  | weak
deriving DecidableEq, Repr, Inhabited

namespace HandleMode

/-- The name of a mode in logs. -/
def name : HandleMode → String
  | owning => "Owning"
  | weak => "Weak"

/-- The mode that a request asks for. -/
def ofWeak (weak : Bool) : HandleMode :=
  if weak then .weak else .owning

end HandleMode

/-- A word other than zero that may stand for an object. -/
structure Token where
  raw : UInt64
  raw_ne_zero : raw ≠ 0
deriving DecidableEq

namespace Token

/-- The bits of one half of a token. -/
def halfMask : UInt64 := 0xFFFFFFFF

/-- The bits of one half of a token, as a count. -/
def halfBits : UInt64 := 32

/-- The number of generations after which a slot counts from zero again. -/
def generations : Nat := 0x100000000

/-- The most slots that a table may have, so that the low half of a token never
overflows. -/
def maxSlots : Nat := 0x100000000 - 2

/-- Read any word as a token; zero is none. -/
def ofRaw? (raw : UInt64) : Option Token :=
  if nonzero : raw ≠ 0 then some ⟨raw, nonzero⟩ else none

/-- The word with a slot index and a generation as its halves. -/
def pack (index generation : UInt64) : UInt64 :=
  ((generation &&& halfMask) <<< halfBits) ||| (index + 1)

/-- The token of a slot in a generation.  No slot of a table packs to zero, so
the least token never stands in. -/
def ofSlot (index generation : Nat) : Token :=
  (ofRaw? (pack (UInt64.ofNat index) (UInt64.ofNat generation))).getD ⟨1, by decide⟩

/-- The slot index, unless the low half is zero. -/
def index? (token : Token) : Option Nat :=
  let low := token.raw &&& halfMask
  if low = 0 then none else some (low.toNat - 1)

/-- The generation. -/
def generation (token : Token) : Nat :=
  ((token.raw >>> halfBits) &&& halfMask).toNat

end Token

end ObjectBridge
