import ObjectBridge.Native.Arguments

/-!
# Argument packs

A pack is an argument list under construction by a host.  Each value that is
pushed gets a cell of eight octets, and the cell stays where it is however many
values follow; a pair of tag and address may be pushed as it is and gets none.
-/

namespace ObjectBridge

/-- Tags and addresses in order, and the cells of the pushed values. -/
structure ArgumentPack where
  tags : List Int32
  addresses : List Address
  cells : List (List UInt8)
deriving DecidableEq, Repr

namespace ArgumentPack

/-- The pack without arguments. -/
def empty : ArgumentPack := ⟨[], [], []⟩

/-- Append a value.  The address of a pointer is its value; that of any other
value is its cell. -/
def push (pack : ArgumentPack) (value : Value) : ArgumentPack where
  tags := pack.tags ++ [Int32.ofNat value.kind.code]
  addresses := pack.addresses ++
    [match value with
      | .pointer address => address
      | _ => Memory.blockAddress pack.cells.length]
  cells := pack.cells ++ [value.cell]

/-- Append a tag and an address as they are. -/
def pushRaw (pack : ArgumentPack) (tag : Int32) (address : Address) : ArgumentPack where
  tags := pack.tags ++ [tag]
  addresses := pack.addresses ++ [address]
  cells := pack.cells

/-- A pack of values. -/
def ofValues (values : List Value) : ArgumentPack :=
  values.foldl push empty

/-- The count as it is passed. -/
def count (pack : ArgumentPack) : Int32 := Int32.ofNat pack.tags.length

/-- The buffers as they are passed.  An empty pack passes null pointers. -/
def buffers (pack : ArgumentPack) : ArgumentBuffers where
  tags := if pack.tags.isEmpty then none else some pack.tags
  addresses := if pack.addresses.isEmpty then none else some pack.addresses
  count := pack.count

/-- The arguments of a pack without going through its buffers. -/
def encoded (pack : ArgumentPack) : EncodedArguments :=
  ⟨pack.tags.zip pack.addresses⟩

/-- Memory in which the cells of a pack lie. -/
def memory (pack : ArgumentPack) (outside : Memory) : Memory :=
  outside.withBlocks pack.cells.toArray

end ArgumentPack

end ObjectBridge
