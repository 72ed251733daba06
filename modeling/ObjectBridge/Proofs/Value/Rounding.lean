import Mathlib.Algebra.Order.Field.Power
import Mathlib.Algebra.Order.Field.Rat
import Mathlib.Tactic.Linarith
import Mathlib.Tactic.Positivity
import Mathlib.Tactic.Ring
import ObjectBridge.Value.Binary

/-!
# Rounding to the nearest number of a format

A binary format has the numbers that its patterns denote, and encoding a number is to
give the nearest of them, a tie going to the one with an even significand.  The numbers
of a format lie on grids: those with one exponent are the multiples of one power of two.
Encoding rounds on the grid of the number itself, and that carries the argument: on a
coarser grid there are fewer numbers, and on a finer one the numbers stay below the
power of two at which the grid of the number begins.
-/

namespace ObjectBridge

/-! ## Quotients -/

section Quotients

variable {numerator denominator : Nat}

/-- A quotient is rounded down or up by no more than half a unit, and by half a unit only
to an even number. -/
private theorem roundQuotient_cases (numerator denominator : Nat) :
    (roundQuotient numerator denominator = numerator / denominator ∧
      2 * (numerator % denominator) ≤ denominator ∧
      (2 * (numerator % denominator) = denominator → numerator / denominator % 2 = 0)) ∨
    (roundQuotient numerator denominator = numerator / denominator + 1 ∧
      denominator ≤ 2 * (numerator % denominator) ∧
      (2 * (numerator % denominator) = denominator →
        (numerator / denominator + 1) % 2 = 0)) := by
  simp only [roundQuotient]
  split
  · exact .inl ⟨rfl, by omega, by omega⟩
  · split
    · exact .inr ⟨rfl, by omega, by omega⟩
    · split
      · exact .inl ⟨rfl, by omega, by omega⟩
      · exact .inr ⟨rfl, by omega, by omega⟩

private theorem quotient_mul_sub (numerator denominator : Nat) :
    ((numerator / denominator : Nat) : ℤ) * denominator - numerator =
      -((numerator % denominator : Nat) : ℤ) := by
  have divided : (denominator : ℤ) * ((numerator / denominator : Nat) : ℤ) +
      ((numerator % denominator : Nat) : ℤ) = numerator := by
    exact_mod_cast Nat.div_add_mod numerator denominator
  linarith

/-- A rounded quotient is off by no more than half a unit. -/
theorem two_mul_abs_roundQuotient_sub_le (positive : 0 < denominator) :
    2 * |(roundQuotient numerator denominator : ℤ) * denominator - numerator| ≤ denominator := by
  have below := Nat.mod_lt numerator positive
  have off := quotient_mul_sub numerator denominator
  rcases roundQuotient_cases numerator denominator with ⟨downEq, half, _⟩ | ⟨upEq, half, _⟩
  · rw [downEq, off, abs_neg, abs_of_nonneg (Int.natCast_nonneg _)]
    omega
  · have offUp : ((numerator / denominator + 1 : Nat) : ℤ) * denominator - numerator =
        denominator - ((numerator % denominator : Nat) : ℤ) := by
      push_cast at off ⊢
      linarith
    rw [upEq, offUp, abs_of_nonneg (by omega)]
    omega

/-- A quotient that is off by half a unit is rounded to an even number. -/
theorem roundQuotient_even_of_tie (positive : 0 < denominator)
    (tie : 2 * |(roundQuotient numerator denominator : ℤ) * denominator - numerator| =
      denominator) : roundQuotient numerator denominator % 2 = 0 := by
  have below := Nat.mod_lt numerator positive
  have off := quotient_mul_sub numerator denominator
  rcases roundQuotient_cases numerator denominator with ⟨downEq, _, even⟩ | ⟨upEq, _, even⟩
  · rw [downEq, off, abs_neg, abs_of_nonneg (Int.natCast_nonneg _)] at tie
    rw [downEq]
    exact even (by omega)
  · have offUp : ((numerator / denominator + 1 : Nat) : ℤ) * denominator - numerator =
        denominator - ((numerator % denominator : Nat) : ℤ) := by
      push_cast at off ⊢
      linarith
    rw [upEq, offUp, abs_of_nonneg (by omega)] at tie
    rw [upEq]
    exact even (by omega)

end Quotients

/-! ## Grids -/

/-- A multiple of a unit that is nearest to a number, an even one if another is as near. -/
structure NearestMultiple (unit number : ℚ) (kept : ℤ) : Prop where
  half : 2 * |kept * unit - number| ≤ unit
  even : 2 * |kept * unit - number| = unit → kept % 2 = 0

namespace NearestMultiple

variable {unit number : ℚ} {kept other : ℤ}

/-- Two multiples of a unit are a unit apart. -/
private theorem unit_le_add (number : ℚ) (positive : 0 < unit) (differs : other ≠ kept) :
    unit ≤ |other * unit - number| + |kept * unit - number| := by
  have apart : (1 : ℚ) ≤ |(other : ℚ) - kept| := by
    exact_mod_cast Int.one_le_abs (sub_ne_zero.mpr differs)
  have scaled : |(other : ℚ) * unit - kept * unit| = |(other : ℚ) - kept| * unit := by
    rw [← sub_mul, abs_mul, abs_of_pos positive]
  calc unit ≤ |(other : ℚ) - kept| * unit := le_mul_of_one_le_left positive.le apart
    _ = |(other * unit - number) - (kept * unit - number)| := by rw [← scaled]; ring_nf
    _ ≤ |other * unit - number| + |kept * unit - number| := abs_sub _ _

/-- No multiple is nearer. -/
theorem abs_sub_le (nearest : NearestMultiple unit number kept) (positive : 0 < unit)
    (other : ℤ) : |kept * unit - number| ≤ |other * unit - number| := by
  by_cases same : other = kept
  · rw [same]
  · have apart := unit_le_add number positive same
    have half := nearest.half
    linarith

/-- If another multiple is as near, the one that is kept is even. -/
theorem even_of_tie (nearest : NearestMultiple unit number kept) (positive : 0 < unit)
    (differs : other ≠ kept) (tie : |other * unit - number| = |kept * unit - number|) :
    kept % 2 = 0 := by
  have apart := unit_le_add number positive differs
  have half := nearest.half
  exact nearest.even (by linarith)

end NearestMultiple

namespace BinaryFormat

variable {format : BinaryFormat} {significand : Nat} {exponent : ℤ}

/-- The multiple of the grid's unit to which a number is rounded. -/
def kept (format : BinaryFormat) (significand : Nat) (exponent : ℤ) : Nat :=
  if format.lastExponent significand exponent ≤ exponent then
    significand * Nat.pow 2 (exponent - format.lastExponent significand exponent).toNat
  else
    roundQuotient significand
      (Nat.pow 2 (format.lastExponent significand exponent - exponent).toNat)

/-- The grid's unit: the weight of the last bit that is kept. -/
def unit (format : BinaryFormat) (significand : Nat) (exponent : ℤ) : ℚ :=
  2 ^ format.lastExponent significand exponent

theorem two_pow_precision (wide : 0 < format.precision) :
    2 ^ format.precision = 2 * 2 ^ format.fractionBits := by
  rw [← pow_succ', fractionBits, Nat.sub_add_cancel wide]

theorem even_two_pow_fractionBits (wide : 1 < format.precision) :
    2 ^ format.fractionBits % 2 = 0 := by
  have positive : format.fractionBits ≠ 0 := by
    rw [fractionBits]
    omega
  exact Nat.mod_eq_zero_of_dvd (dvd_pow_self 2 positive)

theorem minExponent_le_lastExponent (format : BinaryFormat) (significand : Nat) (exponent : ℤ) :
    format.minExponent ≤ format.lastExponent significand exponent :=
  le_max_right _ _

theorem magnitude_eq (format : BinaryFormat) (significand : Nat) (exponent : ℤ) :
    format.magnitude significand exponent =
      min ((format.lastExponent significand exponent - format.minExponent).toNat *
        Nat.pow 2 format.fractionBits + format.kept significand exponent)
        format.infinityPattern := rfl

theorem unit_pos : 0 < format.unit significand exponent := by
  rw [unit]
  positivity

theorem zpow_eq_pow_mul_zpow {low high : ℤ} (le : low ≤ high) :
    (2 : ℚ) ^ high = 2 ^ (high - low).toNat * 2 ^ low := by
  rw [← zpow_natCast, Int.toNat_of_nonneg (by omega), ← zpow_add₀ (by norm_num)]
  congr 1
  omega

/-- The number is rounded to the nearest multiple of its unit. -/
theorem nearestMultiple_kept (format : BinaryFormat) (significand : Nat) (exponent : ℤ) :
    NearestMultiple (format.unit significand exponent) (significand * 2 ^ exponent)
      (format.kept significand exponent) := by
  have unitPos := @unit_pos format significand exponent
  by_cases coarse : format.lastExponent significand exponent ≤ exponent
  · have exact : ((format.kept significand exponent : ℤ) : ℚ) * format.unit significand exponent =
        significand * 2 ^ exponent := by
      rw [kept, if_pos coarse, unit, zpow_eq_pow_mul_zpow coarse]
      push_cast [Nat.pow_eq]
      ring
    constructor
    · rw [exact, sub_self, abs_zero, mul_zero]
      exact unitPos.le
    · rw [exact, sub_self, abs_zero, mul_zero]
      intro absurdity
      exact absurd absurdity unitPos.ne
  · have below : exponent ≤ format.lastExponent significand exponent := by omega
    have weightPos : (0 : ℚ) < 2 ^ exponent := by positivity
    -- In units of the number's own last bit, the grid's unit is a whole number.
    obtain ⟨scale, scaleEq⟩ : ∃ scale : Nat,
        scale = 2 ^ (format.lastExponent significand exponent - exponent).toNat := ⟨_, rfl⟩
    have scalePos : 0 < scale := scaleEq ▸ Nat.two_pow_pos _
    have unitEq : format.unit significand exponent = scale * 2 ^ exponent := by
      rw [unit, zpow_eq_pow_mul_zpow below, scaleEq]
      push_cast
      rfl
    have keptEq : format.kept significand exponent = roundQuotient significand scale := by
      rw [kept, if_neg coarse, scaleEq]
      rfl
    have offEq : |((format.kept significand exponent : ℤ) : ℚ) *
        format.unit significand exponent - significand * 2 ^ exponent| =
          |((roundQuotient significand scale : ℤ) * scale - significand : ℤ)| * 2 ^ exponent := by
      rw [unitEq, keptEq, ← abs_of_pos weightPos]
      push_cast
      rw [← abs_mul, abs_of_pos weightPos]
      ring_nf
    constructor
    · have half : (2 * |((roundQuotient significand scale : ℤ) * scale - significand : ℤ)| : ℚ) ≤
          scale := by exact_mod_cast two_mul_abs_roundQuotient_sub_le scalePos
      rw [offEq, unitEq, ← mul_assoc]
      exact mul_le_mul_of_nonneg_right half weightPos.le
    · intro tie
      rw [offEq, unitEq, ← mul_assoc, mul_left_inj' weightPos.ne'] at tie
      have quotientTie : 2 * |(roundQuotient significand scale : ℤ) * scale - significand| =
          scale := by exact_mod_cast tie
      have even := roundQuotient_even_of_tie scalePos quotientTie
      rw [keptEq]
      omega

/-- The grid of a number is so fine that the number needs no more digits than the format
keeps. -/
theorem number_lt (format : BinaryFormat) (significand : Nat) (exponent : ℤ) :
    (significand : ℚ) * 2 ^ exponent <
      2 ^ format.precision * format.unit significand exponent := by
  have significandLt : (significand : ℚ) < 2 ^ (significand.log2 + 1) := by
    exact_mod_cast Nat.lt_log2_self
  have lastGe : exponent + significand.log2 + 1 - format.precision ≤
      format.lastExponent significand exponent := le_max_left _ _
  calc (significand : ℚ) * 2 ^ exponent < 2 ^ (significand.log2 + 1) * 2 ^ exponent :=
        mul_lt_mul_of_pos_right significandLt (by positivity)
    _ = 2 ^ (exponent + significand.log2 + 1) := by
        rw [← zpow_natCast, ← zpow_add₀ (by norm_num)]
        congr 1
        push_cast
        ring
    _ ≤ 2 ^ (format.lastExponent significand exponent + format.precision) :=
        zpow_le_zpow_right₀ (by norm_num) (by omega)
    _ = 2 ^ format.precision * format.unit significand exponent := by
        rw [unit, zpow_add₀ (by norm_num), zpow_natCast, mul_comm]

/-- Above the finest grid of the format, a number needs all the digits that it keeps. -/
theorem le_number (nonzero : significand ≠ 0) (wide : 0 < format.precision)
    (above : format.minExponent < format.lastExponent significand exponent) :
    2 ^ format.fractionBits * format.unit significand exponent ≤
      (significand : ℚ) * 2 ^ exponent := by
  have leSignificand : (2 : ℚ) ^ significand.log2 ≤ significand := by
    exact_mod_cast Nat.log2_self_le nonzero
  have lastEq : format.lastExponent significand exponent =
      exponent + significand.log2 + 1 - format.precision := by
    rw [lastExponent] at above ⊢
    omega
  calc (2 : ℚ) ^ format.fractionBits * format.unit significand exponent =
        2 ^ significand.log2 * 2 ^ exponent := by
        rw [unit, lastEq, ← zpow_natCast, ← zpow_natCast, ← zpow_add₀ (by norm_num),
          ← zpow_add₀ (by norm_num), fractionBits]
        congr 1
        omega
    _ ≤ (significand : ℚ) * 2 ^ exponent :=
        mul_le_mul_of_nonneg_right leSignificand (by positivity)

theorem kept_le (format : BinaryFormat) (significand : Nat) (exponent : ℤ) :
    format.kept significand exponent ≤ 2 ^ format.precision := by
  have unitPos := @unit_pos format significand exponent
  have half := (format.nearestMultiple_kept significand exponent).half
  have less := format.number_lt significand exponent
  have off := le_abs_self (((format.kept significand exponent : ℤ) : ℚ) *
    format.unit significand exponent - significand * 2 ^ exponent)
  have keptLt : (format.kept significand exponent : ℚ) * format.unit significand exponent <
      ((2 ^ format.precision + 1 : Nat) : ℚ) * format.unit significand exponent := by
    push_cast at half off ⊢
    linarith
  have := lt_of_mul_lt_mul_right keptLt unitPos.le
  exact Nat.lt_succ_iff.mp (by exact_mod_cast this)

theorem le_kept (nonzero : significand ≠ 0) (wide : 0 < format.precision)
    (above : format.minExponent < format.lastExponent significand exponent) :
    2 ^ format.fractionBits ≤ format.kept significand exponent := by
  have unitPos := @unit_pos format significand exponent
  have half := (format.nearestMultiple_kept significand exponent).half
  have le := le_number nonzero wide above
  have off := neg_abs_le (((format.kept significand exponent : ℤ) : ℚ) *
    format.unit significand exponent - significand * 2 ^ exponent)
  have ltKept : ((2 ^ format.fractionBits : Nat) : ℚ) * format.unit significand exponent <
      ((format.kept significand exponent + 1 : Nat) : ℚ) *
        format.unit significand exponent := by
    push_cast at half off ⊢
    linarith
  have := lt_of_mul_lt_mul_right ltKept unitPos.le
  exact Nat.lt_succ_iff.mp (by exact_mod_cast this)

end BinaryFormat

end ObjectBridge
