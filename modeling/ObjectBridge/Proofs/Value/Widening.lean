import ObjectBridge.Proofs.Value.Coercion
import ObjectBridge.Proofs.Value.Nearest

/-!
# Integers widen to floating numbers

An integer goes to double precision in one step, and is rounded to the nearest double.  It
goes to single precision through double precision, and is rounded twice.  The second
rounding hides the first unless it finds a tie: a double that is halfway between two
singles does not tell on which side of it the integer was.  So the single is nearest to
the double, but nearest to the integer only where there was no tie or nothing to round at
first.
-/

namespace ObjectBridge

namespace BinaryFormat

/-! ## Rounding twice -/

/-- The numbers of the narrow format are numbers of the wide one, and so are those halfway
between two. -/
structure Refines (wide narrow : BinaryFormat) : Prop where
  precision_le : narrow.precision + 2 ≤ wide.precision
  minExponent_lt : wide.minExponent < narrow.minExponent

variable {wide narrow : BinaryFormat} {significand : Nat} {exponent : ℤ} {number value : ℚ}

theorem Refines.representable (refines : wide.Refines narrow)
    (representable : narrow.Representable value) : wide.Representable value := by
  obtain ⟨digits, exponent, few, ge, rfl⟩ := representable
  have precisionLe : (2 : ℤ) ^ narrow.precision ≤ 2 ^ wide.precision :=
    pow_le_pow_right₀ (by norm_num) (by have := refines.precision_le; omega)
  exact ⟨digits, exponent, few.trans_le precisionLe, refines.minExponent_lt.le.trans ge, rfl⟩

/-- Half a unit of the narrow format more or less is a number of the wide one. -/
theorem Refines.representable_half (refines : wide.Refines narrow) (significand : Nat)
    (exponent : ℤ) {side : ℤ} (one : |side| ≤ 1) :
    wide.Representable (narrow.kept significand exponent * narrow.unit significand exponent +
      side * (narrow.unit significand exponent / 2)) := by
  have keptLe : (narrow.kept significand exponent : ℤ) ≤ 2 ^ narrow.precision := by
    exact_mod_cast narrow.kept_le significand exponent
  have lastGe := narrow.minExponent_le_lastExponent significand exponent
  have positive : (0 : ℤ) < 2 ^ narrow.precision := by positivity
  refine ⟨2 * narrow.kept significand exponent + side,
    narrow.lastExponent significand exponent - 1, ?_, ?_, ?_⟩
  · calc |2 * (narrow.kept significand exponent : ℤ) + side|
        ≤ |2 * (narrow.kept significand exponent : ℤ)| + |side| := abs_add_le _ _
      _ ≤ 2 * 2 ^ narrow.precision + 1 := by
          rw [abs_of_nonneg (by positivity)]
          omega
      _ < 2 ^ (narrow.precision + 2) := by
          rw [pow_add]
          omega
      _ ≤ 2 ^ wide.precision := pow_le_pow_right₀ (by norm_num) refines.precision_le
  · have := refines.minExponent_lt
    omega
  · rw [unit, zpow_sub_one₀ (by norm_num)]
    push_cast
    ring

/-- A number that rounds to a tie is halfway between two. -/
theorem halfway_of_tie (bits : 1 < narrow.precision)
    (tie : 2 * |(narrow.kept significand exponent : ℚ) * narrow.unit significand exponent -
      significand * 2 ^ exponent| = narrow.unit significand exponent) :
    narrow.Halfway (significand * 2 ^ exponent) := by
  have unitPos := @unit_pos narrow significand exponent
  have lastGe := narrow.minExponent_le_lastExponent significand exponent
  have keptLe : (narrow.kept significand exponent : ℤ) ≤ 2 ^ narrow.precision := by
    exact_mod_cast narrow.kept_le significand exponent
  have positive : (0 : ℤ) < 2 ^ narrow.precision := by positivity
  have keptRepresentable := representable_of_abs_le (by omega)
    ((abs_of_nonneg (Int.natCast_nonneg _)).trans_le keptLe) lastGe
  -- The other number is on the other side, a unit away from the one that is kept.
  suffices other : ∃ digits : ℤ, |digits| ≤ 2 ^ narrow.precision ∧
      digits ≠ narrow.kept significand exponent ∧
      2 * |(digits : ℚ) * narrow.unit significand exponent - significand * 2 ^ exponent| =
        narrow.unit significand exponent by
    obtain ⟨digits, few, differs, otherTie⟩ := other
    refine ⟨_, _, keptRepresentable, representable_of_abs_le (by omega) few lastGe, ?_, ?_,
      (nearest_kept bits significand exponent).closest⟩
    · intro same
      exact differs (by exact_mod_cast (mul_right_cancel₀ unitPos.ne' same).symm)
    · push_cast
      rw [unit] at tie otherTie
      linarith
  rcases abs_eq (by linarith : 0 ≤ narrow.unit significand exponent / 2) |>.mp
    (by linarith : |(narrow.kept significand exponent : ℚ) * narrow.unit significand exponent -
      significand * 2 ^ exponent| = narrow.unit significand exponent / 2) with above | below
  · refine ⟨narrow.kept significand exponent - 1, abs_le.mpr ⟨by omega, by omega⟩, by omega, ?_⟩
    have off : (((narrow.kept significand exponent : ℤ) - 1 : ℤ) : ℚ) *
        narrow.unit significand exponent - significand * 2 ^ exponent =
          -(narrow.unit significand exponent / 2) := by
      push_cast
      linarith
    rw [off, abs_neg, abs_of_pos (by linarith)]
    ring
  · have less := narrow.number_lt significand exponent
    have keptLt : (narrow.kept significand exponent : ℚ) < 2 ^ narrow.precision :=
      lt_of_mul_lt_mul_right (by linarith) unitPos.le
    have keptLt' : (narrow.kept significand exponent : ℤ) < 2 ^ narrow.precision := by
      exact_mod_cast keptLt
    refine ⟨narrow.kept significand exponent + 1, abs_le.mpr ⟨by omega, by omega⟩, by omega, ?_⟩
    have off : (((narrow.kept significand exponent : ℤ) + 1 : ℤ) : ℚ) *
        narrow.unit significand exponent - significand * 2 ^ exponent =
          narrow.unit significand exponent / 2 := by
      push_cast
      linarith
    rw [off, abs_of_pos (by linarith)]
    ring

/-- A number of the format is not halfway between two. -/
theorem Representable.not_halfway (representable : narrow.Representable number) :
    ¬narrow.Halfway number := by
  rintro ⟨one, other, _, _, differs, tie, closest⟩
  have same := closest number representable
  rw [sub_self, abs_zero, abs_nonpos_iff] at same
  rw [same, abs_zero, eq_comm, abs_eq_zero] at tie
  exact differs (by linarith)

/-- The number that the wide rounding started from stays within half a unit of what the
narrow rounding keeps, unless that was a tie: the number half a unit away would have been
nearer. -/
theorem two_mul_abs_kept_sub_lt (refines : wide.Refines narrow)
    (closest : ∀ value, wide.Representable value →
      |(significand : ℚ) * 2 ^ exponent - number| ≤ |value - number|)
    (noTie : 2 * |(narrow.kept significand exponent : ℚ) * narrow.unit significand exponent -
      significand * 2 ^ exponent| ≠ narrow.unit significand exponent) :
    2 * |(narrow.kept significand exponent : ℚ) * narrow.unit significand exponent - number| <
      narrow.unit significand exponent := by
  have half := (narrow.nearestMultiple_kept significand exponent).half
  push_cast at half
  have strict := lt_of_le_of_ne half noTie
  obtain ⟨lower, upper⟩ := abs_lt.mp (by linarith : |(narrow.kept significand exponent : ℚ) *
    narrow.unit significand exponent - significand * 2 ^ exponent| <
      narrow.unit significand exponent / 2)
  have below := gt_of_abs_sub_le
    (closest _ (refines.representable_half significand exponent (by norm_num : |(-1 : ℤ)| ≤ 1)))
    (by push_cast; linarith)
  have above := lt_of_abs_sub_le
    (closest _ (refines.representable_half significand exponent (by norm_num : |(1 : ℤ)| ≤ 1)))
    (by push_cast; linarith)
  push_cast at below above
  have within : |(narrow.kept significand exponent : ℚ) * narrow.unit significand exponent -
      number| < narrow.unit significand exponent / 2 :=
    abs_lt.mpr ⟨by linarith, by linarith⟩
  linarith

/-- What the narrow rounding keeps is nearest to the number that the wide rounding started
from, unless it was halfway between two. -/
theorem nearest_kept_of_closest (refines : wide.Refines narrow) (bits : 1 < narrow.precision)
    (closest : ∀ value, wide.Representable value →
      |(significand : ℚ) * 2 ^ exponent - number| ≤ |value - number|)
    (notHalfway : ¬narrow.Halfway (significand * 2 ^ exponent)) :
    Nearest narrow.Representable number
      (narrow.kept significand exponent * narrow.unit significand exponent)
      (narrow.kept significand exponent) := by
  have unitPos := @unit_pos narrow significand exponent
  by_cases zero : significand = 0
  · subst zero
    rw [kept_zero, Nat.cast_zero, zero_mul]
    rw [Nat.cast_zero, zero_mul] at closest
    exact Nearest.of_closest_zero fun other representable =>
      closest other (refines.representable representable)
  · have within := two_mul_abs_kept_sub_lt refines closest fun tie =>
      notHalfway (halfway_of_tie bits tie)
    have nearest : NearestMultiple (narrow.unit significand exponent) number
        (narrow.kept significand exponent) :=
      ⟨by exact_mod_cast within.le, fun tie => absurd tie (by exact_mod_cast within.ne)⟩
    refine nearest_of_nearestMultiple bits nearest fun above under => ?_
    -- The grid begins no later than what was rounded, so nothing finer is nearer.
    have start := le_number zero (by omega) above
    have startKept := le_kept zero (by omega) above
    have startKept' : (2 : ℚ) ^ narrow.fractionBits * narrow.unit significand exponent ≤
        narrow.kept significand exponent * narrow.unit significand exponent :=
      mul_le_mul_of_nonneg_right (by exact_mod_cast startKept) unitPos.le
    have closestStart := nearest.abs_sub_le unitPos (2 ^ narrow.fractionBits)
    push_cast at closestStart
    rw [abs_of_pos (by linarith), abs_of_pos (by linarith)] at closestStart
    have same : (narrow.kept significand exponent : ℚ) * narrow.unit significand exponent =
        2 ^ narrow.fractionBits * narrow.unit significand exponent := by linarith
    refine ⟨?_, fun value representable => ?_⟩
    · exact_mod_cast mul_right_cancel₀ unitPos.ne' same
    · have nearer := closest value (refines.representable representable)
      rw [abs_of_pos (by linarith)] at nearer
      rw [same, abs_of_pos (by linarith)]
      linarith

theorem Halfway.applySign (halfway : narrow.Halfway number) (negative : Bool) :
    narrow.Halfway (applySign negative number) := by
  obtain ⟨one, other, oneHas, otherHas, differs, tie, closest⟩ := halfway
  refine ⟨_, _, oneHas.applySign negative, otherHas.applySign negative, ?_, ?_, ?_⟩
  · intro same
    have := applySign_eq_iff.mp same
    rw [applySign_applySign] at this
    exact differs this
  · rw [abs_applySign_sub, abs_applySign_sub, applySign_applySign, tie]
  · intro value representable
    have := closest _ (representable.applySign negative)
    rwa [abs_applySign_sub, applySign_applySign, ← abs_applySign_sub]

/-! ## Integers -/

theorem double_refines_single : double.Refines single := by
  constructor <;> decide

/-- A format of at least two digits in whose range the numbers of 64 bits are. -/
structure Spacious (format : BinaryFormat) : Prop where
  bits : 1 < format.precision
  minExponent_le : format.minExponent ≤ 0
  positive : 0 < format.infinityPattern
  room : max (64 + 1 - format.precision : ℤ) format.minExponent - format.minExponent + 2 <
    2 ^ format.exponentWidth - 1

theorem spacious_double : double.Spacious := by
  constructor <;> decide

theorem spacious_single : single.Spacious := by
  constructor <;> decide

variable {format : BinaryFormat}

theorem Spacious.representable_two_pow (spacious : format.Spacious) (power : Nat) :
    format.Representable (2 ^ power) := by
  refine ⟨1, power, ?_, spacious.minExponent_le.trans (Int.natCast_nonneg _), by simp⟩
  rw [abs_one]
  exact one_lt_pow₀ (by norm_num) (by have := spacious.bits; omega)

/-- An integer of 64 bits is encoded as the number of the format that is nearest to it. -/
theorem Spacious.exists_decode_ofInt (spacious : format.Spacious) {number : ℤ}
    (small : number.natAbs ≤ 2 ^ 64) :
    ∃ rounded last,
      format.decode (format.ofInt number) = .finite (decide ((number : ℚ) < 0)) rounded last ∧
      Nearest format.Representable (applySign (decide ((number : ℚ) < 0)) number)
        (rounded * 2 ^ last) rounded := by
  have small' : (number.natAbs : ℚ) * 2 ^ (0 : ℤ) ≤ 2 ^ (64 : ℤ) := by
    rw [zpow_zero, mul_one]
    exact_mod_cast small
  have finite := magnitude_lt (by have := spacious.bits; omega) spacious.room small'
  obtain ⟨rounded, last, decodeEq, nearest⟩ :=
    exists_decode_encode (decide (number < 0)) spacious.bits spacious.positive finite
  refine ⟨rounded, last, by simpa [ofInt] using decodeEq, ?_⟩
  have kept := nearest _ _ (nearest_kept spacious.bits number.natAbs 0)
  rwa [zpow_zero, mul_one, ← applySign_intCast] at kept

theorem Spacious.isNearest_ofInt (spacious : format.Spacious) {number : ℤ}
    (small : number.natAbs ≤ 2 ^ 64) : format.IsNearest number (format.ofInt number) := by
  obtain ⟨rounded, last, decodeEq, nearest⟩ := spacious.exists_decode_ofInt small
  exact isNearest_of_nearest (by have := spacious.bits; omega) decodeEq nearest

/-- A number of another format that is not greater than 64 bits is converted to the one
that is nearest to it, and to the one nearest to what it was rounded from unless it is
halfway between two. -/
theorem Spacious.exists_decode_convert (spacious : narrow.Spacious) (refines : wide.Refines narrow)
    {pattern : Nat} {negative : Bool}
    (decodeEq : wide.decode pattern = .finite negative significand exponent)
    (small : (significand : ℚ) * 2 ^ exponent ≤ 2 ^ (64 : ℤ)) :
    ∃ rounded last,
      narrow.decode (wide.convert narrow pattern) = .finite negative rounded last ∧
      Nearest narrow.Representable (significand * 2 ^ exponent) (rounded * 2 ^ last) rounded ∧
      ∀ number, Nearest wide.Representable number (significand * 2 ^ exponent) significand →
        ¬narrow.Halfway (significand * 2 ^ exponent) →
          Nearest narrow.Representable number (rounded * 2 ^ last) rounded := by
  have finite := magnitude_lt (by have := spacious.bits; omega) spacious.room small
  obtain ⟨rounded, last, roundedEq, nearest⟩ :=
    exists_decode_encode negative spacious.bits spacious.positive finite
  refine ⟨rounded, last, ?_, nearest _ _ (nearest_kept spacious.bits _ _), ?_⟩
  · rw [convert, decodeEq]
    exact roundedEq
  · intro number rounds notHalfway
    exact nearest _ _ (nearest_kept_of_closest refines spacious.bits rounds.closest notHalfway)

end BinaryFormat

namespace Value

variable {value : Value} {number : Int}

/-- The number of a value has at most 64 bits. -/
theorem natAbs_le_of_toInt? (denotes : value.toInt? = some number) : number.natAbs ≤ 2 ^ 64 := by
  obtain ⟨ge, le⟩ := holds_of_toInt? denotes
  have least : -0x8000000000000000 ≤ value.kind.least := by cases value.kind <;> decide
  have greatest : value.kind.greatest ≤ 0xFFFFFFFFFFFFFFFF := by cases value.kind <;> decide
  omega

/-- A number of a kind of at most 32 bits is a double. -/
theorem representable_double_of_toInt? (denotes : value.toInt? = some number)
    (notLong : value.kind ≠ .long) (notULong : value.kind ≠ .ulong) :
    BinaryFormat.double.Representable number := by
  obtain ⟨ge, le⟩ := holds_of_toInt? denotes
  have least : -0x80000000 ≤ value.kind.least := by
    cases kindEq : value.kind <;> first | contradiction | decide
  have greatest : value.kind.greatest ≤ 0xFFFFFFFF := by
    cases kindEq : value.kind <;> first | contradiction | decide
  refine ⟨number, 0, abs_lt.mpr ⟨?_, ?_⟩, by decide, by simp⟩
  · norm_num [BinaryFormat.double]
    omega
  · norm_num [BinaryFormat.double]
    omega

theorem toNat_bits_ofInt (number : Int) :
    (Binary64.ofInt number).bits.toNat = BinaryFormat.double.ofInt number :=
  UInt64.toNat_ofNat_of_lt (BinaryFormat.double.encode_lt _ _ _)

theorem toNat_bits_ofBinary64 {wide : Binary64} {negative : Bool} {significand : Nat}
    {exponent : ℤ}
    (decodeEq : BinaryFormat.double.decode wide.bits.toNat =
      .finite negative significand exponent) :
    (Binary32.ofBinary64 wide).bits.toNat =
      BinaryFormat.double.convert BinaryFormat.single wide.bits.toNat := by
  refine UInt32.toNat_ofNat_of_lt ?_
  rw [BinaryFormat.convert, decodeEq]
  exact BinaryFormat.single.encode_lt _ _ _

/-- Integers widen to the nearest double, and to the single that is nearest to that double.
This is the single nearest to the integer unless the double is halfway between two singles
and is not the integer itself, so it is for the kinds of at most 32 bits.  An integer that
the target has is widened to itself. -/
theorem integers_widen_to_nearest (denotes : value.toInt? = some number) :
    ∃ (wide : Binary64) (narrow : Binary32) (between : ℚ),
      (value.coerce .double = some (.double wide) ∧
        BinaryFormat.double.IsNearest number wide.bits.toNat ∧
        (BinaryFormat.double.Representable number →
          BinaryFormat.double.Denotes wide.bits.toNat number)) ∧
      (value.coerce .float = some (.float narrow) ∧
        BinaryFormat.double.Denotes wide.bits.toNat between ∧
        BinaryFormat.single.IsNearest between narrow.bits.toNat ∧
        (¬BinaryFormat.single.Halfway between →
          BinaryFormat.single.IsNearest number narrow.bits.toNat) ∧
        (BinaryFormat.double.Representable number →
          BinaryFormat.single.IsNearest number narrow.bits.toNat) ∧
        (BinaryFormat.single.Representable number →
          BinaryFormat.single.Denotes narrow.bits.toNat number)) ∧
      (value.kind ≠ .long → value.kind ≠ .ulong → BinaryFormat.double.Representable number) := by
  have small := natAbs_le_of_toInt? denotes
  obtain ⟨significand, exponent, wideEq, wideNearest⟩ :=
    BinaryFormat.spacious_double.exists_decode_ofInt small
  rw [← toNat_bits_ofInt] at wideEq
  have wideLe := wideNearest.le_of_le (BinaryFormat.spacious_double.representable_two_pow 64)
    (by rw [applySign_intCast]; exact_mod_cast small)
  obtain ⟨rounded, last, narrowEq, narrowNearest, once⟩ :=
    BinaryFormat.spacious_single.exists_decode_convert BinaryFormat.double_refines_single wideEq
      (by exact_mod_cast wideLe)
  rw [← toNat_bits_ofBinary64 wideEq] at narrowEq
  -- The double has the sign of the integer: unless it is zero, it is not smaller than one.
  have signed : decide (signedValue (decide ((number : ℚ) < 0)) significand exponent < 0) =
      decide ((number : ℚ) < 0) := by
    refine decide_signedValue_lt fun negative => ?_
    have one := wideNearest.ge_of_ge (BinaryFormat.spacious_double.representable_two_pow 0) (by
      rw [applySign_intCast]
      have nonzero : number ≠ 0 := by
        rintro rfl
        simp at negative
      exact_mod_cast Int.natAbs_pos.mpr nonzero)
    linarith
  have isNearest : Nearest BinaryFormat.single.Representable
      (applySign (decide ((number : ℚ) < 0)) number) (rounded * 2 ^ last) rounded →
      BinaryFormat.single.IsNearest number
        (Binary32.ofBinary64 (.ofInt number)).bits.toNat :=
    BinaryFormat.isNearest_of_nearest (by decide) narrowEq
  -- An integer that is a double is rounded once only.
  have exactly (representable : BinaryFormat.double.Representable number) :
      Nearest BinaryFormat.single.Representable
        (applySign (decide ((number : ℚ) < 0)) number) (rounded * 2 ^ last) rounded := by
    rw [← wideNearest.eq_of_mem (representable.applySign _)]
    exact narrowNearest
  refine ⟨.ofInt number, .ofBinary64 (.ofInt number), _,
    ⟨coerce_double denotes, BinaryFormat.isNearest_of_nearest (by decide) wideEq wideNearest,
      BinaryFormat.denotes_of_nearest wideEq wideNearest⟩,
    ⟨coerce_float denotes, ⟨_, _, _, wideEq, rfl⟩, ?between, ?apart, isNearest ∘ exactly, ?single⟩,
    representable_double_of_toInt? denotes⟩
  case between =>
    refine BinaryFormat.isNearest_of_nearest (by decide) (by rw [signed]; exact narrowEq) ?_
    rw [signed, signedValue, applySign_applySign]
    exact narrowNearest
  case apart =>
    intro notHalfway
    exact isNearest (once _ wideNearest fun halfway => notHalfway (halfway.applySign _))
  case single =>
    intro representable
    exact BinaryFormat.denotes_of_nearest narrowEq
      (exactly (BinaryFormat.double_refines_single.representable representable)) representable

/-- The greatest integer of 64 bits is rounded to the same power of two by both
roundings. -/
theorem integers_widen_to_nearest_greatest :
    (ulong 0xFFFFFFFFFFFFFFFF).coerce .float = some (.float ⟨0x5F800000⟩) ∧
      BinaryFormat.single.IsNearest 0xFFFFFFFFFFFFFFFF 0x5F800000 := by
  obtain ⟨wide, narrow, between, ⟨doubleEq, _⟩, ⟨floatEq, denotes, _, apart, _⟩, _⟩ :=
    integers_widen_to_nearest (rfl : (ulong 0xFFFFFFFFFFFFFFFF).toInt? = some 0xFFFFFFFFFFFFFFFF)
  have coerceEq : (ulong 0xFFFFFFFFFFFFFFFF).coerce .float = some (.float ⟨0x5F800000⟩) := by
    decide
  have wideEq : (ulong 0xFFFFFFFFFFFFFFFF).coerce .double =
      some (.double ⟨0x43F0000000000000⟩) := by decide
  cases doubleEq.symm.trans wideEq
  cases floatEq.symm.trans coerceEq
  refine ⟨coerceEq, ?_⟩
  have power : BinaryFormat.double.Denotes 0x43F0000000000000 (2 ^ 64) :=
    ⟨false, 0x10000000000000, 12, by decide, by norm_num [signedValue, applySign]⟩
  cases denotes.unique power
  have narrow := apart (BinaryFormat.spacious_single.representable_two_pow 64).not_halfway
  exact_mod_cast narrow

/-- An integer that is a little more than halfway between two singles is passed as the
lower of the two: the double between is halfway, and the tie goes to the even one. -/
theorem rounding_twice_misses_nearest :
    (long 1152921573326323713).coerce .float = some (.float ⟨0x5D800000⟩) ∧
      ¬BinaryFormat.single.IsNearest 1152921573326323713 0x5D800000 ∧
      BinaryFormat.single.IsNearest 1152921573326323713 0x5D800001 := by
  refine ⟨by decide, ?_, ?_⟩
  · rintro ⟨significand, exponent, decodeEq, nearest⟩
    have lowerEq : BinaryFormat.single.decode 0x5D800000 = .finite false 0x800000 37 := by decide
    have upper : BinaryFormat.single.Has 1152921642045800448 :=
      ⟨0x5D800001, false, 0x800001, 37, by decide, by norm_num [signedValue, applySign]⟩
    cases lowerEq.symm.trans decodeEq
    have closest := nearest.closest _ upper
    norm_num [signedValue, applySign] at closest
  · have nearest := BinaryFormat.spacious_single.isNearest_ofInt
      (by decide : (1152921573326323713 : ℤ).natAbs ≤ 2 ^ 64)
    have encodeEq : BinaryFormat.single.ofInt 1152921573326323713 = 0x5D800001 := by decide
    rw [encodeEq] at nearest
    exact_mod_cast nearest

end Value

end ObjectBridge
