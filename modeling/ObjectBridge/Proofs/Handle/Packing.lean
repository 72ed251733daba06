import Mathlib.Data.Nat.Bitwise
import ObjectBridge.Handle.Token

/-!
# Tokens as pairs of a slot and a generation

A token is a word, and a slot with a generation is packed into one by shifts and
masks.  On numbers, the high half of a token is its generation and the low half
one more than its slot, so packing loses nothing within the limits of a table,
and a token with a slot is determined by that slot and its generation.
-/

namespace ObjectBridge.Token

theorem toNat_and_halfMask (word : UInt64) :
    (word &&& halfMask).toNat = word.toNat % 2 ^ 32 := by
  have maskEq : halfMask.toNat = 2 ^ 32 - 1 := by decide
  rw [UInt64.toNat_and, maskEq, Nat.and_two_pow_sub_one_eq_mod]

theorem toNat_shiftRight_halfBits (word : UInt64) :
    (word >>> halfBits).toNat = word.toNat / 2 ^ 32 := by
  have bitsEq : halfBits.toNat % 64 = 32 := by decide
  rw [UInt64.toNat_shiftRight, bitsEq, Nat.shiftRight_eq_div_pow]

/-- The generation of a token is its high half. -/
theorem generation_eq (token : Token) : token.generation = token.raw.toNat / 2 ^ 32 := by
  have rawLt := token.raw.toNat_lt
  rw [generation, toNat_and_halfMask, toNat_shiftRight_halfBits]
  omega

theorem generation_lt (token : Token) : token.generation < generations := by
  have rawLt := token.raw.toNat_lt
  rw [generation_eq, generations]
  omega

/-- The low half of a token with a slot is one more than that slot. -/
theorem index?_eq_some_iff {token : Token} {index : Nat} :
    token.index? = some index ↔ token.raw.toNat % 2 ^ 32 = index + 1 := by
  have lowEq := toNat_and_halfMask token.raw
  have zeroIff : token.raw &&& halfMask = 0 ↔ token.raw.toNat % 2 ^ 32 = 0 := by
    rw [← UInt64.toNat_inj, lowEq]
    rfl
  simp only [index?, zeroIff, lowEq]
  split
  · simp
    omega
  · simp
    omega

/-- A token with a slot is the number that its generation and its slot make up. -/
theorem toNat_raw_of_index? {token : Token} {index : Nat} (indexEq : token.index? = some index) :
    token.raw.toNat = token.generation * 2 ^ 32 + (index + 1) := by
  have lowEq := index?_eq_some_iff.mp indexEq
  rw [generation_eq, ← lowEq]
  omega

/-- Slot and generation determine a token. -/
theorem eq_of_index?_of_generation {first second : Token} {index : Nat}
    (firstIndex : first.index? = some index) (secondIndex : second.index? = some index)
    (generationEq : first.generation = second.generation) : first = second := by
  have firstRaw := toNat_raw_of_index? firstIndex
  have secondRaw := toNat_raw_of_index? secondIndex
  have rawEq : first.raw = second.raw := by
    apply UInt64.toNat_inj.mp
    rw [firstRaw, secondRaw, generationEq]
  cases first
  cases second
  cases rawEq
  rfl

/-- One more than the slot does not carry into the high half. -/
theorem toNat_low {index : Nat} (indexLt : index < maxSlots) :
    (UInt64.ofNat index + 1).toNat = index + 1 := by
  unfold maxSlots at indexLt
  have oneEq : (1 : UInt64).toNat = 1 := rfl
  rw [UInt64.toNat_add, oneEq, UInt64.toNat_ofNat']
  omega

/-- The generation moves into the high half as a whole. -/
theorem toNat_high {generation : Nat} (generationLt : generation < generations) :
    ((UInt64.ofNat generation &&& halfMask) <<< halfBits).toNat = generation <<< 32 := by
  unfold generations at generationLt
  have bitsEq : halfBits.toNat % 64 = 32 := by decide
  rw [UInt64.toNat_shiftLeft, toNat_and_halfMask, bitsEq, UInt64.toNat_ofNat',
    Nat.shiftLeft_eq, Nat.shiftLeft_eq]
  omega

/-- Packing puts the generation in front of one more than the slot, and neither
half reaches into the other. -/
theorem toNat_pack {index generation : Nat} (indexLt : index < maxSlots)
    (generationLt : generation < generations) :
    (pack (UInt64.ofNat index) (UInt64.ofNat generation)).toNat =
      generation * 2 ^ 32 + (index + 1) := by
  have lowLt : index + 1 < 2 ^ 32 := by
    unfold maxSlots at indexLt
    omega
  rw [pack, UInt64.toNat_or, toNat_high generationLt, toNat_low indexLt,
    ← Nat.shiftLeft_add_eq_or_of_lt lowLt, Nat.shiftLeft_eq]

/-- The halves that are packed have no bit in common. -/
theorem high_and_low {index generation : Nat} (indexLt : index < maxSlots)
    (generationLt : generation < generations) :
    ((UInt64.ofNat generation &&& halfMask) <<< halfBits) &&& (UInt64.ofNat index + 1) = 0 := by
  have lowLt : index + 1 < 2 ^ 32 := by
    unfold maxSlots at indexLt
    omega
  rw [← UInt64.toNat_inj, UInt64.toNat_and, toNat_high generationLt, toNat_low indexLt]
  apply Nat.eq_of_testBit_eq
  intro position
  rw [Nat.testBit_and, Nat.testBit_shiftLeft]
  by_cases inHigh : 32 ≤ position
  · have lowBit : (index + 1).testBit position = false :=
      Nat.testBit_lt_two_pow (lowLt.trans_le (Nat.pow_le_pow_right Nat.two_pos inHigh))
    simp [lowBit]
  · simp [inHigh]

theorem ofRaw?_eq_some_iff {raw : UInt64} {token : Token} :
    ofRaw? raw = some token ↔ raw = token.raw := by
  rcases token with ⟨word, nonzero⟩
  rw [ofRaw?]
  split
  · simp
  · rename_i zero
    have wordNe : raw ≠ word := fun rawEq => zero (rawEq ▸ nonzero)
    simp [wordNe]

/-- No slot of a table packs to zero, so the least token never stands in. -/
theorem ofRaw?_pack {index generation : Nat} (indexLt : index < maxSlots)
    (generationLt : generation < generations) :
    ofRaw? (pack (UInt64.ofNat index) (UInt64.ofNat generation)) =
      some (ofSlot index generation) := by
  have nonzero : pack (UInt64.ofNat index) (UInt64.ofNat generation) ≠ 0 := by
    intro packZero
    have packEq := toNat_pack indexLt generationLt
    rw [packZero] at packEq
    change 0 = _ at packEq
    omega
  simp only [ofSlot, ofRaw?, dif_pos nonzero, Option.getD_some]

theorem toNat_raw_ofSlot {index generation : Nat} (indexLt : index < maxSlots)
    (generationLt : generation < generations) :
    (ofSlot index generation).raw.toNat = generation * 2 ^ 32 + (index + 1) := by
  rw [← ofRaw?_eq_some_iff.mp (ofRaw?_pack indexLt generationLt)]
  exact toNat_pack indexLt generationLt

theorem index?_ofSlot {index generation : Nat} (indexLt : index < maxSlots)
    (generationLt : generation < generations) :
    (ofSlot index generation).index? = some index := by
  rw [index?_eq_some_iff, toNat_raw_ofSlot indexLt generationLt]
  unfold maxSlots at indexLt
  omega

theorem generation_ofSlot {index generation : Nat} (indexLt : index < maxSlots)
    (generationLt : generation < generations) :
    (ofSlot index generation).generation = generation := by
  rw [generation_eq, toNat_raw_ofSlot indexLt generationLt]
  unfold maxSlots at indexLt
  omega

/-- Every token with a slot of a table is the token of that slot in its
generation. -/
theorem eq_ofSlot {token : Token} {index : Nat} (indexEq : token.index? = some index)
    (indexLt : index < maxSlots) : token = ofSlot index token.generation :=
  eq_of_index?_of_generation indexEq (index?_ofSlot indexLt token.generation_lt)
    (generation_ofSlot indexLt token.generation_lt).symm

theorem index?_eq_none_iff {token : Token} :
    token.index? = none ↔ token.raw &&& halfMask = 0 := by
  simp [index?]

/-- Distinct slots and generations make distinct tokens. -/
theorem ofSlot_inj {index generation otherIndex otherGeneration : Nat}
    (indexLt : index < maxSlots) (generationLt : generation < generations)
    (otherIndexLt : otherIndex < maxSlots) (otherGenerationLt : otherGeneration < generations) :
    ofSlot index generation = ofSlot otherIndex otherGeneration ↔
      index = otherIndex ∧ generation = otherGeneration := by
  constructor
  · intro same
    constructor
    · have indexEq := index?_ofSlot otherIndexLt otherGenerationLt
      rw [← same, index?_ofSlot indexLt generationLt] at indexEq
      exact Option.some.inj indexEq
    · rw [← generation_ofSlot indexLt generationLt, same,
        generation_ofSlot otherIndexLt otherGenerationLt]
  · rintro ⟨rfl, rfl⟩
    rfl

/-- Within the limits of a table, slots with generations and tokens with a slot are the same
thing.  A slot and a generation pack into two halves without a common bit, the word they make
up is not zero, and both are read back from it; so distinct ones make distinct tokens.  A word
other than zero is a token, which has no slot exactly if its low half is zero, and which is the
token of its slot in its generation if a table has that slot. -/
theorem packing_loses_nothing :
    (∀ index generation : Nat, index < maxSlots → generation < generations →
      ((UInt64.ofNat generation &&& halfMask) <<< halfBits) &&& (UInt64.ofNat index + 1) = 0 ∧
      ofRaw? (pack (UInt64.ofNat index) (UInt64.ofNat generation)) =
        some (ofSlot index generation) ∧
      ofRaw? (ofSlot index generation).raw = some (ofSlot index generation) ∧
      (ofSlot index generation).index? = some index ∧
      (ofSlot index generation).generation = generation ∧
      ∀ otherIndex otherGeneration : Nat,
        otherIndex < maxSlots → otherGeneration < generations →
        (index, generation) ≠ (otherIndex, otherGeneration) →
        ofSlot index generation ≠ ofSlot otherIndex otherGeneration) ∧
    ∀ raw : UInt64, raw ≠ 0 →
      ∃ token, ofRaw? raw = some token ∧ token.raw = raw ∧
        (token.index? = none ↔ raw &&& halfMask = 0) ∧
        ∀ index, token.index? = some index → index < maxSlots →
          (ofSlot index token.generation).raw = raw := by
  constructor
  · intro index generation indexLt generationLt
    refine ⟨high_and_low indexLt generationLt, ofRaw?_pack indexLt generationLt,
      ofRaw?_eq_some_iff.mpr rfl, index?_ofSlot indexLt generationLt,
      generation_ofSlot indexLt generationLt, ?_⟩
    intro otherIndex otherGeneration otherIndexLt otherGenerationLt different same
    obtain ⟨rfl, rfl⟩ :=
      (ofSlot_inj indexLt generationLt otherIndexLt otherGenerationLt).mp same
    exact different rfl
  · intro raw nonzero
    refine ⟨⟨raw, nonzero⟩, ofRaw?_eq_some_iff.mpr rfl, rfl, index?_eq_none_iff, ?_⟩
    intro index indexEq indexLt
    rw [← eq_ofSlot indexEq indexLt]

/-- The last slot in its last generation, and a word whose low half is zero. -/
theorem packing_loses_nothing_last :
    let index := 0xFFFFFFFD
    let generation := 0xFFFFFFFF
    index < maxSlots ∧ generation < generations ∧
      (ofSlot index generation).raw = 0xFFFFFFFFFFFFFFFE ∧
      (ofSlot index generation).index? = some index ∧
      (ofSlot index generation).generation = generation ∧
      (index, generation) ≠ (index, 0) ∧ ofSlot index generation ≠ ofSlot index 0 ∧
      (∃ token, ofRaw? 0xFFFFFFFFFFFFFFFE = some token ∧ token.index? = some index ∧
        (ofSlot index token.generation).raw = 0xFFFFFFFFFFFFFFFE) ∧
      ∃ token, ofRaw? 0x100000000 = some token ∧ token.index? = none := by
  intro index generation
  have indexLt : index < maxSlots := by decide
  have generationLt : generation < generations := by decide
  have otherLt : 0 < generations := by decide
  have different : (index, generation) ≠ (index, 0) := by decide
  obtain ⟨_, _, _, indexEq, generationEq, distinct⟩ :=
    packing_loses_nothing.1 index generation indexLt generationLt
  obtain ⟨token, read, rawEq, _, packed⟩ :=
    packing_loses_nothing.2 0xFFFFFFFFFFFFFFFE (by decide)
  have tokenIndex : token.index? = some index := by
    rw [index?_eq_some_iff, rawEq]
    decide
  obtain ⟨slotless, slotlessRead, _, slotlessIff, _⟩ :=
    packing_loses_nothing.2 0x100000000 (by decide)
  exact ⟨indexLt, generationLt, by decide +kernel, indexEq, generationEq, different,
    distinct index 0 indexLt otherLt different,
    ⟨token, read, tokenIndex, packed index tokenIndex indexLt⟩,
    slotless, slotlessRead, slotlessIff.mpr (by decide)⟩

end ObjectBridge.Token
