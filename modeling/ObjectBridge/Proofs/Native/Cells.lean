import Mathlib.Algebra.Group.Nat.Defs
import ObjectBridge.Native.Memory

/-!
# Cells in memory

A value is passed in eight octets, of which its kind takes as many as it needs; the
value is read back from these.  Blocks of octets lie apart in memory: each is read at
its own address, and memory shows what it showed before wherever no new block lies.
-/

namespace ObjectBridge

/-! ## Octets -/

theorem littleEndian_toLittleEndian (count number : Nat) :
    littleEndian (toLittleEndian count number) = number % 256 ^ count := by
  induction count generalizing number with
  | zero => rw [Nat.pow_zero, Nat.mod_one]; rfl
  | succ count ih =>
      have octetEq : (UInt8.ofNat number).toNat = number % 256 := UInt8.toNat_ofNat'
      rw [toLittleEndian, littleEndian, octetEq, ih, Nat.pow_succ', Nat.mod_mul]

theorem length_toLittleEndian (count number : Nat) :
    (toLittleEndian count number).length = count := by
  induction count generalizing number with
  | zero => rfl
  | succ count ih => rw [toLittleEndian, List.length_cons, ih]

theorem take_toLittleEndian {count total : Nat} (enough : count ≤ total) (number : Nat) :
    (toLittleEndian total number).take count = toLittleEndian count number := by
  induction count generalizing total number with
  | zero => rfl
  | succ count ih =>
      cases total with
      | zero => contradiction
      | succ total =>
          rw [toLittleEndian, List.take_succ_cons, ih (Nat.le_of_succ_le_succ enough)]
          rfl

theorem littleEndian_lt (octets : List UInt8) : littleEndian octets < 256 ^ octets.length := by
  induction octets with
  | nil => exact Nat.zero_lt_one
  | cons octet rest ih =>
      have octetLt : octet.toNat < 256 := octet.toNat_lt
      rw [littleEndian, List.length_cons, Nat.pow_succ']
      omega

/-- Octets are the lowest ones of the number that they spell. -/
theorem toLittleEndian_littleEndian (octets : List UInt8) :
    toLittleEndian octets.length (littleEndian octets) = octets := by
  induction octets with
  | nil => rfl
  | cons octet rest ih =>
      have octetLt : octet.toNat < 256 := octet.toNat_lt
      have restEq : (octet.toNat + 256 * littleEndian rest) / 256 = littleEndian rest := by omega
      have octetEq : UInt8.ofNat (octet.toNat + 256 * littleEndian rest) = octet := by
        rw [← UInt8.toNat_inj, UInt8.toNat_ofNat']
        omega
      rw [List.length_cons, littleEndian, toLittleEndian, restEq, octetEq, ih]

theorem toLittleEndian_zero (count : Nat) : toLittleEndian count 0 = List.replicate count 0 := by
  induction count with
  | zero => rfl
  | succ count ih =>
      rw [toLittleEndian, Nat.zero_div, ih]
      rfl

/-- A number that takes few octets is zeros in all others. -/
theorem toLittleEndian_of_lt {count total number : Nat} (enough : count ≤ total)
    (small : number < 256 ^ count) :
    toLittleEndian total number =
      toLittleEndian count number ++ List.replicate (total - count) 0 := by
  induction count generalizing total number with
  | zero =>
      obtain rfl : number = 0 := Nat.lt_one_iff.mp small
      exact toLittleEndian_zero total
  | succ count ih =>
      cases total with
      | zero => contradiction
      | succ total =>
          rw [Nat.pow_succ'] at small
          have restLt : number / 256 < 256 ^ count := Nat.div_lt_of_lt_mul small
          rw [toLittleEndian, ih (Nat.le_of_succ_le_succ enough) restLt, Nat.succ_sub_succ]
          rfl

namespace Value

/-- The number of a value takes no more octets than its kind has. -/
theorem nativeNumber_lt (value : Value) : value.nativeNumber < 256 ^ value.kind.width := by
  cases value with
  | sbyte number => exact number.toUInt8.toNat_lt
  | byte number => exact number.toNat_lt
  | short number => exact number.toUInt16.toNat_lt
  | ushort number => exact number.toNat_lt
  | int number => exact number.toUInt32.toNat_lt
  | uint number => exact number.toNat_lt
  | long number => exact number.toUInt64.toNat_lt
  | ulong number => exact number.toNat_lt
  | float number => exact number.bits.toNat_lt
  | double number => exact number.bits.toNat_lt
  | bool truth => cases truth <;> decide
  | pointer address => exact Nat.zero_lt_one

theorem width_le (kind : Kind) : kind.width ≤ 8 := by
  cases kind <;> decide

/-- A value other than a pointer is read back from its cell. -/
theorem ofOctets_cell {value : Value} (scalar : value.kind ≠ .pointer) :
    ofOctets value.kind (value.cell.take value.kind.width) = value := by
  have numberEq : littleEndian (value.cell.take value.kind.width) = value.nativeNumber := by
    rw [cell, take_toLittleEndian (width_le _), littleEndian_toLittleEndian,
      Nat.mod_eq_of_lt value.nativeNumber_lt]
  simp only [ofOctets, numberEq]
  cases value with
  | pointer address => contradiction
  | bool truth => cases truth <;> rfl
  | _ => simp [kind, nativeNumber]

end Value

/-! ## Memory -/

namespace Memory

variable {outside : Memory} {blocks : Array (List UInt8)} {block : List UInt8} {index : Nat}

private theorem toNat_blockAddress_add (small : index < 2 ^ 31) {offset : Nat}
    (near : offset < 2 ^ 32) :
    ((blockAddress index).raw + UInt64.ofNat offset).toNat = (index + 1) * 2 ^ 32 + offset := by
  have indexEq : (UInt64.ofNat (index + 1)).toNat = index + 1 := by
    rw [UInt64.toNat_ofNat', Nat.mod_eq_of_lt (by omega)]
  have shiftEq : UInt64.toNat 32 % 64 = 32 := rfl
  rw [blockAddress, UInt64.toNat_add, UInt64.toNat_shiftLeft, indexEq, shiftEq,
    Nat.shiftLeft_eq, UInt64.toNat_ofNat']
  omega

private theorem toNat_shift (place : UInt64) : (place >>> 32).toNat = place.toNat / 2 ^ 32 := by
  have shiftEq : UInt64.toNat 32 % 64 = 32 := rfl
  rw [UInt64.toNat_shiftRight, shiftEq, Nat.shiftRight_eq_div_pow]

private theorem toNat_mask (place : UInt64) :
    (place &&& 0xFFFFFFFF).toNat = place.toNat % 2 ^ 32 := by
  have maskEq : UInt64.toNat 0xFFFFFFFF = 2 ^ 32 - 1 := rfl
  rw [UInt64.toNat_and, maskEq, Nat.and_two_pow_sub_one_eq_mod]

/-- An address near that of a block is at that offset in it. -/
private theorem withBlocks_place (small : index < 2 ^ 31) (blockEq : blocks[index]? = some block)
    {offset : Nat} (near : offset < 2 ^ 32) :
    outside.withBlocks blocks ((blockAddress index).raw + UInt64.ofNat offset) =
      block.getD offset (outside ((blockAddress index).raw + UInt64.ofNat offset)) := by
  generalize placeEq : (blockAddress index).raw + UInt64.ofNat offset = place
  have toNatEq : place.toNat = (index + 1) * 2 ^ 32 + offset :=
    placeEq ▸ toNat_blockAddress_add small near
  have numberEq : (place >>> 32).toNat = index + 1 := by
    rw [toNat_shift, toNatEq]
    omega
  have offsetEq : (place &&& 0xFFFFFFFF).toNat = offset := by
    rw [toNat_mask, toNatEq]
    omega
  simp only [withBlocks, numberEq, offsetEq, if_neg (Nat.succ_ne_zero index), Nat.add_sub_cancel,
    blockEq]

theorem length_read (memory : Memory) (address : Address) (count : Nat) :
    (memory.read address count).length = count := by
  rw [read, List.length_map, List.length_range]

theorem take_read {count total : Nat} (enough : count ≤ total) (memory : Memory)
    (address : Address) : (memory.read address total).take count = memory.read address count := by
  rw [read, ← List.map_take, List.take_range, Nat.min_eq_left enough, read]

/-- The octets of a block are read at its address. -/
theorem read_withBlocks (small : index < 2 ^ 31) (blockEq : blocks[index]? = some block)
    {count : Nat} (enough : count ≤ block.length) (near : count ≤ 2 ^ 32) :
    (outside.withBlocks blocks).read (blockAddress index) count = block.take count := by
  rw [read]
  refine List.ext_getElem? fun offset => ?_
  by_cases inside : offset < count
  · rw [List.getElem?_map, List.getElem?_range inside, Option.map_some,
      withBlocks_place small blockEq (Nat.lt_of_lt_of_le inside near),
      List.getElem?_take_of_lt inside, List.getD_eq_getElem?_getD,
      List.getElem?_eq_getElem (Nat.lt_of_lt_of_le inside enough)]
    rfl
  · have outsideEq (octets : List UInt8) (short : octets.length ≤ count) :
        octets[offset]? = none :=
      List.getElem?_eq_none (Nat.le_trans short (Nat.le_of_not_lt inside))
    rw [outsideEq, outsideEq]
    · exact List.length_take_le count block
    · exact Nat.le_of_eq (by rw [List.length_map, List.length_range])

/-- An octet that lies in no new block is what it was before. -/
theorem withBlocks_append {old new : List (List UInt8)} (few : (old ++ new).length ≤ 2 ^ 31)
    {place : UInt64}
    (apart : ∀ index block, old.length ≤ index → (old ++ new)[index]? = some block →
      ∀ offset < block.length, place ≠ (blockAddress index).raw + UInt64.ofNat offset) :
    outside.withBlocks (old ++ new).toArray place = outside.withBlocks old.toArray place := by
  simp only [withBlocks]
  cases numberEq : (place >>> 32).toNat with
  | zero => rfl
  | succ index =>
      simp only [Nat.add_one_ne_zero, if_false, Nat.add_sub_cancel, List.getElem?_toArray]
      by_cases isOld : index < old.length
      · rw [List.getElem?_append_left isOld]
      · have absent : old[index]? = none := List.getElem?_eq_none (Nat.le_of_not_lt isOld)
        rw [absent]
        cases blockEq : (old ++ new)[index]? with
        | none => rfl
        | some block =>
            have short : block.length ≤ (place &&& 0xFFFFFFFF).toNat := by
              apply Nat.le_of_not_lt
              intro inside
              -- Otherwise the place would be the address of an octet of the block.
              apply apart index block (Nat.le_of_not_lt isOld) blockEq _ inside
              have present := (List.getElem?_eq_some_iff.mp blockEq).1
              have near : (place &&& 0xFFFFFFFF).toNat < 2 ^ 32 := by
                rw [toNat_mask]
                exact Nat.mod_lt _ (Nat.two_pow_pos 32)
              rw [← UInt64.toNat_inj, toNat_blockAddress_add (by omega) near, toNat_mask,
                ← numberEq, toNat_shift]
              omega
            simp only [List.getD_eq_getElem?_getD, List.getElem?_eq_none short]
            rfl

/-- What is read depends on the octets at the address alone. -/
theorem read_congr {memory other : Memory} {address : Address} {count : Nat}
    (same : ∀ offset < count, memory (address.raw + UInt64.ofNat offset) =
      other (address.raw + UInt64.ofNat offset)) :
    memory.read address count = other.read address count := by
  apply List.map_congr_left
  intro offset member
  exact same offset (List.mem_range.mp member)

theorem isNull_blockAddress (small : index < 2 ^ 31) : (blockAddress index).isNull = false := by
  rw [Address.isNull, beq_eq_false_iff_ne]
  intro null
  have toNatEq := @toNat_blockAddress_add index small 0 (by decide)
  rw [null] at toNatEq
  have zero : (0 : UInt64) + UInt64.ofNat 0 = 0 := rfl
  rw [zero, UInt64.toNat_zero] at toNatEq
  omega

end Memory

end ObjectBridge
