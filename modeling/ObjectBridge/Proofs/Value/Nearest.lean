import ObjectBridge.Proofs.Value.Rounding

/-!
# Encoding finds the nearest pattern

What a pattern of a binary format denotes is a rational number, unless it is infinite or
no number at all.  A pattern is nearest to a number if no pattern denotes a number that is
nearer, and if its significand is even where another number is just as near.  Encoding a
number gives the pattern that is nearest to it, as long as it does not overflow, and a
pattern that denotes the number itself if the format has it.
-/

namespace ObjectBridge

/-! ## Numbers -/

/-- The number, with its sign changed or not. -/
def applySign (negative : Bool) (number : ℚ) : ℚ :=
  if negative then -number else number

section ApplySign

variable {negative : Bool} {number other : ℚ}

@[simp]
theorem applySign_applySign (negative : Bool) (number : ℚ) :
    applySign negative (applySign negative number) = number := by
  cases negative with
  | false => rfl
  | true => exact neg_neg number

theorem abs_applySign_sub :
    |applySign negative number - other| = |number - applySign negative other| := by
  cases negative with
  | false => rfl
  | true =>
      rw [← abs_neg]
      simp [applySign, add_comm, sub_eq_add_neg]

theorem applySign_eq_iff :
    applySign negative number = other ↔ number = applySign negative other := by
  constructor
  · rintro rfl
    exact (applySign_applySign negative number).symm
  · rintro rfl
    exact applySign_applySign negative other

theorem applySign_intCast (integer : ℤ) :
    applySign (decide ((integer : ℚ) < 0)) integer = integer.natAbs := by
  rcases lt_or_ge integer 0 with less | ge
  · simp [applySign, less, abs_of_neg]
  · simp [applySign, not_lt.mpr ge, abs_of_nonneg ge]

end ApplySign

/-- The number that a sign, a significand and an exponent give. -/
def signedValue (negative : Bool) (significand : Nat) (exponent : ℤ) : ℚ :=
  applySign negative (significand * 2 ^ exponent)

/-- A number has the sign that it is given unless it is zero. -/
theorem decide_signedValue_lt {negative : Bool} {significand : Nat} {exponent : ℤ}
    (nonzero : negative = true → 0 < (significand : ℚ) * 2 ^ exponent) :
    decide (signedValue negative significand exponent < 0) = negative := by
  cases negative with
  | false =>
      have nonneg : 0 ≤ (significand : ℚ) * 2 ^ exponent := by positivity
      simpa [signedValue, applySign] using nonneg
  | true => simpa [signedValue, applySign] using nonzero rfl

/-- None of some numbers is nearer to a number than the value is, and if another of them is
as near, the significand of the value is even. -/
structure Nearest (among : ℚ → Prop) (number value : ℚ) (significand : Nat) : Prop where
  closest : ∀ other, among other → |value - number| ≤ |other - number|
  even_of_tie : ∀ other, among other → other ≠ value → |other - number| = |value - number| →
    significand % 2 = 0

/-- Of two numbers, a third is on the side of the one that is nearer to it. -/
theorem lt_of_abs_sub_le {number near far : ℚ} (closer : |near - number| ≤ |far - number|)
    (less : near < far) : number < far := by
  by_contra beyond
  rw [abs_of_neg (by linarith), abs_of_nonpos (by linarith)] at closer
  linarith

theorem gt_of_abs_sub_le {number near far : ℚ} (closer : |near - number| ≤ |far - number|)
    (less : far < near) : far < number := by
  by_contra beyond
  rw [abs_of_pos (by linarith), abs_of_nonneg (by linarith)] at closer
  linarith

namespace Nearest

variable {among : ℚ → Prop} {number value bound : ℚ} {significand : Nat}

/-- The only number that is nearest to one of them is that one. -/
theorem eq_of_mem (nearest : Nearest among number value significand) (member : among number) :
    value = number := by
  have closest := nearest.closest number member
  rw [sub_self, abs_zero] at closest
  exact sub_eq_zero.mp (abs_nonpos_iff.mp closest)

/-- Rounding does not pass any of the numbers. -/
theorem le_of_le (nearest : Nearest among number value significand) (member : among bound)
    (le : number ≤ bound) : value ≤ bound := by
  by_contra beyond
  exact absurd (gt_of_abs_sub_le (nearest.closest bound member) (not_le.mp beyond)) (not_lt.mpr le)

theorem ge_of_ge (nearest : Nearest among number value significand) (member : among bound)
    (ge : bound ≤ number) : bound ≤ value := by
  by_contra beyond
  exact absurd (lt_of_abs_sub_le (nearest.closest bound member) (not_le.mp beyond)) (not_lt.mpr ge)

/-- Zero is even. -/
theorem of_closest_zero (closest : ∀ other, among other → |0 - number| ≤ |other - number|) :
    Nearest among number 0 0 :=
  ⟨closest, fun _ _ _ _ => rfl⟩

end Nearest

namespace BinaryFormat

variable {format : BinaryFormat} {negative : Bool} {significand pattern : Nat} {exponent : ℤ}
  {number value : ℚ}

/-- The pattern denotes the number. -/
def Denotes (format : BinaryFormat) (pattern : Nat) (value : ℚ) : Prop :=
  ∃ negative significand exponent, format.decode pattern = .finite negative significand exponent ∧
    value = signedValue negative significand exponent

/-- The format has the number: some pattern denotes it. -/
def Has (format : BinaryFormat) (value : ℚ) : Prop :=
  ∃ pattern, format.Denotes pattern value

/-- The number has no more digits than the format keeps, and none below the finest grid. -/
def Representable (format : BinaryFormat) (value : ℚ) : Prop :=
  ∃ digits exponent : ℤ, |digits| < 2 ^ format.precision ∧ format.minExponent ≤ exponent ∧
    value = digits * 2 ^ exponent

/-- The pattern denotes the number of the format that is nearest to a number, and has the
sign of the latter.  A tie goes to the even significand. -/
def IsNearest (format : BinaryFormat) (number : ℚ) (pattern : Nat) : Prop :=
  ∃ significand exponent,
    format.decode pattern = .finite (decide (number < 0)) significand exponent ∧
    Nearest format.Has number (signedValue (decide (number < 0)) significand exponent) significand

/-- The number is halfway between two representable numbers, and no other is nearer. -/
def Halfway (format : BinaryFormat) (number : ℚ) : Prop :=
  ∃ one other, format.Representable one ∧ format.Representable other ∧ one ≠ other ∧
    |one - number| = |other - number| ∧
    ∀ value, format.Representable value → |one - number| ≤ |value - number|

/-! ## Patterns -/

/-- A pattern is taken apart into sign, exponent field and fraction. -/
theorem decode_fields (format : BinaryFormat) (negative : Bool) {field fraction : Nat}
    (fractionLt : fraction < 2 ^ format.fractionBits)
    (fieldLt : field < 2 ^ format.exponentWidth - 1) :
    format.decode (format.signPattern negative + (field * 2 ^ format.fractionBits + fraction)) =
      if field = 0 then .finite negative fraction format.minExponent
      else .finite negative (fraction + 2 ^ format.fractionBits)
        (format.minExponent + (field - 1 : Nat)) := by
  obtain ⟨sign, signLt, signEq, negativeEq⟩ : ∃ sign : Nat, sign < 2 ∧
      format.signPattern negative =
        sign * 2 ^ format.exponentWidth * 2 ^ format.fractionBits ∧
      (sign == 1) = negative := by
    cases negative with
    | true => exact ⟨1, by omega, by simp [signPattern, pow_add, mul_comm], rfl⟩
    | false => exact ⟨0, by omega, by simp [signPattern], rfl⟩
  have fractionPos : 0 < 2 ^ format.fractionBits := Nat.two_pow_pos _
  have patternEq : format.signPattern negative + (field * 2 ^ format.fractionBits + fraction) =
      fraction + (sign * 2 ^ format.exponentWidth + field) * 2 ^ format.fractionBits := by
    rw [signEq]
    ring
  have fieldLt' : field < 2 ^ format.exponentWidth := by omega
  have quotientEq : (fraction + (sign * 2 ^ format.exponentWidth + field) *
      2 ^ format.fractionBits) / 2 ^ format.fractionBits =
        field + sign * 2 ^ format.exponentWidth := by
    rw [Nat.add_mul_div_right _ _ fractionPos, Nat.div_eq_of_lt fractionLt]
    ring
  have signQuotientEq : (fraction + (sign * 2 ^ format.exponentWidth + field) *
      2 ^ format.fractionBits) / 2 ^ (format.fractionBits + format.exponentWidth) = sign := by
    rw [pow_add, ← Nat.div_div_eq_div_mul, quotientEq,
      Nat.add_mul_div_right _ _ (Nat.two_pow_pos _), Nat.div_eq_of_lt fieldLt', Nat.zero_add]
  rw [decode]
  simp only [Nat.pow_eq, patternEq, quotientEq, signQuotientEq, Nat.add_mul_mod_self_right,
    Nat.mod_eq_of_lt fractionLt, Nat.mod_eq_of_lt fieldLt', Nat.mod_eq_of_lt signLt, negativeEq]
  rw [if_neg (by omega)]

/-- Exponent field and fraction are consecutive digits of one count: so many steps above
the finest grid, and the multiple of the unit there. -/
theorem exists_decode_steps (wide : 1 < format.precision) (negative : Bool) {steps kept : Nat}
    (keptLe : kept ≤ 2 ^ format.precision)
    (normal : steps = 0 ∨ 2 ^ format.fractionBits ≤ kept)
    (finite : steps * 2 ^ format.fractionBits + kept < format.infinityPattern) :
    ∃ significand exponent,
      format.decode (format.signPattern negative +
        (steps * 2 ^ format.fractionBits + kept)) = .finite negative significand exponent ∧
      (significand : ℚ) * 2 ^ exponent = kept * 2 ^ (format.minExponent + steps) ∧
      significand % 2 = kept % 2 := by
  have precisionEq := two_pow_precision (by omega : 0 < format.precision)
  have fractionPos : 0 < 2 ^ format.fractionBits := Nat.two_pow_pos _
  have fieldLt : ∀ field fraction,
      steps * 2 ^ format.fractionBits + kept = field * 2 ^ format.fractionBits + fraction →
      field < 2 ^ format.exponentWidth - 1 := by
    intro field fraction same
    have below : field * 2 ^ format.fractionBits <
        (2 ^ format.exponentWidth - 1) * 2 ^ format.fractionBits := by
      rw [infinityPattern, Nat.pow_eq, Nat.pow_eq] at finite
      omega
    exact lt_of_mul_lt_mul_right below (Nat.zero_le _)
  by_cases subnormal : kept < 2 ^ format.fractionBits
  · have stepsEq : steps = 0 := normal.resolve_right (by omega)
    subst stepsEq
    refine ⟨kept, format.minExponent, ?_, by simp, rfl⟩
    rw [decode_fields format negative subnormal (fieldLt 0 kept rfl), if_pos rfl]
  · by_cases carries : kept = 2 ^ format.precision
    · have sumEq : steps * 2 ^ format.fractionBits + kept =
          (steps + 2) * 2 ^ format.fractionBits + 0 := by
        rw [carries, precisionEq]
        ring
      refine ⟨0 + 2 ^ format.fractionBits, format.minExponent + (steps + 2 - 1 : Nat), ?_, ?_, ?_⟩
      · rw [sumEq, decode_fields format negative fractionPos (fieldLt _ _ sumEq),
          if_neg (by omega)]
      · rw [carries, precisionEq, zpow_add₀ (by norm_num), zpow_add₀ (by norm_num),
          zpow_natCast, zpow_natCast, show steps + 2 - 1 = steps + 1 from rfl, pow_succ]
        push_cast
        ring
      · rw [carries, precisionEq, Nat.zero_add, even_two_pow_fractionBits wide,
          Nat.mul_mod_right]
    · have fractionLt : kept - 2 ^ format.fractionBits < 2 ^ format.fractionBits := by omega
      have sumEq : steps * 2 ^ format.fractionBits + kept =
          (steps + 1) * 2 ^ format.fractionBits + (kept - 2 ^ format.fractionBits) := by
        rw [add_mul]
        omega
      refine ⟨kept - 2 ^ format.fractionBits + 2 ^ format.fractionBits,
        format.minExponent + (steps + 1 - 1 : Nat), ?_, ?_, ?_⟩
      · rw [sumEq, decode_fields format negative fractionLt (fieldLt _ _ sumEq),
          if_neg (by omega)]
      · rw [Nat.sub_add_cancel (by omega), Nat.add_sub_cancel]
      · rw [Nat.sub_add_cancel (by omega)]

/-- A pattern has a bit for the sign, and those of the exponent field and the fraction. -/
theorem encode_lt (format : BinaryFormat) (negative : Bool) (significand : Nat) (exponent : ℤ) :
    format.encode negative significand exponent <
      2 ^ (format.fractionBits + format.exponentWidth + 1) := by
  have signLe : format.signPattern negative ≤ 2 ^ (format.fractionBits + format.exponentWidth) := by
    cases negative with
    | false => exact Nat.zero_le _
    | true => exact le_refl _
  have infinityLt : format.infinityPattern < 2 ^ (format.fractionBits + format.exponentWidth) := by
    rw [infinityPattern, pow_add, mul_comm, Nat.pow_eq, Nat.pow_eq]
    exact Nat.mul_lt_mul_of_pos_left (Nat.sub_lt (Nat.two_pow_pos _) Nat.one_pos)
      (Nat.two_pow_pos _)
  have magnitudeLe : format.magnitude significand exponent ≤ format.infinityPattern :=
    min_le_right _ _
  rw [encode, pow_succ]
  split <;> omega

/-! ## Representable numbers -/

theorem Representable.applySign (representable : format.Representable value) (negative : Bool) :
    format.Representable (applySign negative value) := by
  obtain ⟨digits, exponent, few, ge, rfl⟩ := representable
  cases negative with
  | false => exact ⟨digits, exponent, few, ge, rfl⟩
  | true => exact ⟨-digits, exponent, by rwa [abs_neg], ge, by simp [ObjectBridge.applySign]⟩

/-- A power of two may be written with fewer digits. -/
theorem representable_of_abs_le (wide : 0 < format.precision) {digits : ℤ}
    (few : |digits| ≤ 2 ^ format.precision) (ge : format.minExponent ≤ exponent) :
    format.Representable (digits * 2 ^ exponent) := by
  rcases few.lt_or_eq with less | full
  · exact ⟨digits, exponent, less, ge, rfl⟩
  · have precisionEq : (2 : ℤ) ^ format.precision = 2 * 2 ^ format.fractionBits := by
      exact_mod_cast two_pow_precision wide
    have fractionPos : (0 : ℤ) < 2 ^ format.fractionBits := by positivity
    rw [precisionEq] at full
    obtain ⟨half, halfEq, rfl⟩ : ∃ half : ℤ, |half| = 2 ^ format.fractionBits ∧
        digits = 2 * half := by
      rcases abs_eq (by positivity) |>.mp full with rfl | rfl
      · exact ⟨_, abs_of_pos fractionPos, rfl⟩
      · exact ⟨-2 ^ format.fractionBits, by rw [abs_neg, abs_of_pos fractionPos], by ring⟩
    refine ⟨half, exponent + 1, by omega, by omega, ?_⟩
    rw [zpow_add_one₀ (by norm_num)]
    push_cast
    ring

theorem lt_of_decode_eq (wide : 0 < format.precision)
    (decodeEq : format.decode pattern = .finite negative significand exponent) :
    significand < 2 ^ format.precision ∧ format.minExponent ≤ exponent := by
  have precisionEq := two_pow_precision wide
  have fractionLt : pattern % 2 ^ format.fractionBits < 2 ^ format.fractionBits :=
    Nat.mod_lt _ (Nat.two_pow_pos _)
  simp only [decode, Nat.pow_eq] at decodeEq
  split at decodeEq
  · split at decodeEq <;> cases decodeEq
  · split at decodeEq
    · cases decodeEq
      exact ⟨by omega, le_refl _⟩
    · cases decodeEq
      exact ⟨by omega, by omega⟩

/-- What a pattern denotes is representable. -/
theorem Denotes.representable (denotes : format.Denotes pattern value)
    (wide : 0 < format.precision) : format.Representable value := by
  obtain ⟨negative, significand, exponent, decodeEq, rfl⟩ := denotes
  obtain ⟨few, ge⟩ := lt_of_decode_eq wide decodeEq
  have absLt : |(significand : ℤ)| < 2 ^ format.precision := by
    rw [abs_of_nonneg (Int.natCast_nonneg _)]
    exact_mod_cast few
  have magnitude : format.Representable (significand * 2 ^ exponent) :=
    ⟨significand, exponent, absLt, ge, by push_cast; rfl⟩
  exact magnitude.applySign negative

/-- A pattern denotes one number. -/
theorem Denotes.unique (denotes : format.Denotes pattern value) {other : ℚ}
    (denotesOther : format.Denotes pattern other) : value = other := by
  obtain ⟨_, _, _, decodeEq, rfl⟩ := denotes
  obtain ⟨_, _, _, otherEq, rfl⟩ := denotesOther
  cases decodeEq.symm.trans otherEq
  rfl

/-- A pattern is nearest to a number if it is so, signs apart, among what is
representable. -/
theorem isNearest_of_nearest (wide : 0 < format.precision)
    (decodeEq : format.decode pattern = .finite (decide (number < 0)) significand exponent)
    (nearest : Nearest format.Representable (applySign (decide (number < 0)) number)
      (significand * 2 ^ exponent) significand) :
    format.IsNearest number pattern := by
  refine ⟨significand, exponent, decodeEq, ?_⟩
  constructor
  · rintro other ⟨pattern, denotes⟩
    have representable := (denotes.representable wide).applySign (decide (number < 0))
    have closest := nearest.closest _ representable
    rw [signedValue, abs_applySign_sub]
    rwa [abs_applySign_sub, applySign_applySign] at closest
  · rintro other ⟨pattern, denotes⟩ differs tie
    have representable := (denotes.representable wide).applySign (decide (number < 0))
    refine nearest.even_of_tie _ representable (fun same => differs ?_) ?_
    · exact applySign_eq_iff.mp same
    · rw [abs_applySign_sub, applySign_applySign, tie, signedValue, abs_applySign_sub]

/-- A pattern nearest to a number that is representable denotes it. -/
theorem denotes_of_nearest
    (decodeEq : format.decode pattern = .finite (decide (number < 0)) significand exponent)
    (nearest : Nearest format.Representable (applySign (decide (number < 0)) number)
      (significand * 2 ^ exponent) significand)
    (representable : format.Representable number) : format.Denotes pattern number := by
  refine ⟨_, _, _, decodeEq, ?_⟩
  rw [signedValue, nearest.eq_of_mem (representable.applySign _), applySign_applySign]

/-! ## Encoding -/

/-- On a finer grid, whatever is representable stays below where the grid of the number
begins. -/
theorem lt_of_finer (wide : 0 < format.precision) {digits last : ℤ}
    (few : |digits| < 2 ^ format.precision)
    (finer : last < format.lastExponent significand exponent) :
    (digits : ℚ) * 2 ^ last < 2 ^ format.fractionBits * format.unit significand exponent := by
  have digitsLt : (digits : ℚ) < 2 ^ format.precision := by
    exact_mod_cast (le_abs_self digits).trans_lt few
  calc (digits : ℚ) * 2 ^ last < 2 ^ format.precision * 2 ^ last :=
        mul_lt_mul_of_pos_right digitsLt (by positivity)
    _ ≤ 2 ^ format.precision * 2 ^ (format.lastExponent significand exponent - 1) :=
        mul_le_mul_of_nonneg_left (zpow_le_zpow_right₀ (by norm_num) (by omega)) (by positivity)
    _ = 2 ^ format.fractionBits * format.unit significand exponent := by
        rw [unit, ← zpow_natCast, ← zpow_natCast, ← zpow_add₀ (by norm_num),
          ← zpow_add₀ (by norm_num), fractionBits]
        congr 1
        omega

/-- What is kept of a number is nearest to another number if the two are nearest to each
other on the grid.  If the other number is below where the grid begins, what is kept must
be the beginning, and finer numbers are looked at apart. -/
theorem nearest_of_nearestMultiple (wide : 1 < format.precision)
    (nearest : NearestMultiple (format.unit significand exponent) number
      (format.kept significand exponent))
    (below : format.minExponent < format.lastExponent significand exponent →
      number < 2 ^ format.fractionBits * format.unit significand exponent →
        format.kept significand exponent = 2 ^ format.fractionBits ∧
        ∀ value, format.Representable value →
          |(format.kept significand exponent : ℚ) * format.unit significand exponent - number| ≤
            |value - number|) :
    Nearest format.Representable number
      (format.kept significand exponent * format.unit significand exponent)
      (format.kept significand exponent) := by
  have unitPos := @unit_pos format significand exponent
  -- A representable number is on the grid, or below where the grid begins.
  have side : ∀ value, format.Representable value →
      (∃ multiple : ℤ, value = multiple * format.unit significand exponent) ∨
      (format.minExponent < format.lastExponent significand exponent ∧
        value < 2 ^ format.fractionBits * format.unit significand exponent) := by
    rintro _ ⟨digits, last, few, ge, rfl⟩
    by_cases coarse : format.lastExponent significand exponent ≤ last
    · refine .inl ⟨digits * 2 ^ (last - format.lastExponent significand exponent).toNat, ?_⟩
      rw [zpow_eq_pow_mul_zpow coarse, unit]
      push_cast
      ring
    · exact .inr ⟨by omega, lt_of_finer (by omega) few (not_le.mp coarse)⟩
  -- One below is farther than the beginning, which is on the grid.
  have farther : ∀ value : ℚ,
      ¬number < 2 ^ format.fractionBits * format.unit significand exponent →
      value < 2 ^ format.fractionBits * format.unit significand exponent →
      |(format.kept significand exponent : ℚ) * format.unit significand exponent - number| <
        |value - number| := by
    intro value notUnder lower
    have start := nearest.abs_sub_le unitPos (2 ^ format.fractionBits)
    push_cast at start
    rw [abs_of_nonpos (by linarith : (2 : ℚ) ^ format.fractionBits *
      format.unit significand exponent - number ≤ 0)] at start
    rw [abs_of_neg (by linarith : value - number < 0)]
    linarith
  constructor
  · intro value representable
    rcases side value representable with ⟨multiple, rfl⟩ | ⟨above, lower⟩
    · exact_mod_cast nearest.abs_sub_le unitPos multiple
    · by_cases under : number < 2 ^ format.fractionBits * format.unit significand exponent
      · exact (below above under).2 value representable
      · exact (farther value under lower).le
  · intro value representable differs tie
    rcases side value representable with ⟨multiple, rfl⟩ | ⟨above, lower⟩
    · have multipleNe : multiple ≠ format.kept significand exponent := by
        rintro rfl
        exact differs (by push_cast; rfl)
      have even := nearest.even_of_tie unitPos multipleNe (by exact_mod_cast tie)
      exact_mod_cast even
    · by_cases under : number < 2 ^ format.fractionBits * format.unit significand exponent
      · rw [(below above under).1, even_two_pow_fractionBits wide]
      · exact absurd tie (farther value under lower).ne'

theorem kept_zero (format : BinaryFormat) (exponent : ℤ) : format.kept 0 exponent = 0 := by
  simp [kept, roundQuotient]

/-- What is kept of a number is nearest to the number. -/
theorem nearest_kept (wide : 1 < format.precision) (significand : Nat) (exponent : ℤ) :
    Nearest format.Representable (significand * 2 ^ exponent)
      (format.kept significand exponent * format.unit significand exponent)
      (format.kept significand exponent) := by
  by_cases zero : significand = 0
  · subst zero
    rw [kept_zero, Nat.cast_zero, zero_mul, zero_mul]
    exact Nearest.of_closest_zero fun other _ => by simp
  · refine nearest_of_nearestMultiple wide (format.nearestMultiple_kept significand exponent) ?_
    intro above under
    exact absurd (le_number zero (by omega) above) (not_le.mpr under)

/-- A pattern that encodes a number denotes what is kept of it. -/
theorem exists_decode_encode (negative : Bool) (wide : 1 < format.precision)
    (positive : 0 < format.infinityPattern)
    (finite : significand ≠ 0 → format.magnitude significand exponent < format.infinityPattern) :
    ∃ rounded last,
      format.decode (format.encode negative significand exponent) =
        .finite negative rounded last ∧
      ∀ among number, Nearest among number
          (format.kept significand exponent * format.unit significand exponent)
          (format.kept significand exponent) →
        Nearest among number (rounded * 2 ^ last) rounded := by
  suffices decodes : ∃ rounded last,
      format.decode (format.encode negative significand exponent) =
        .finite negative rounded last ∧
      (rounded : ℚ) * 2 ^ last =
        format.kept significand exponent * format.unit significand exponent ∧
      rounded % 2 = format.kept significand exponent % 2 by
    obtain ⟨rounded, last, decodeEq, valueEq, parityEq⟩ := decodes
    refine ⟨rounded, last, decodeEq, fun among number nearest => ?_⟩
    rw [valueEq]
    exact ⟨nearest.closest, fun other member differs tie =>
      parityEq.trans (nearest.even_of_tie other member differs tie)⟩
  by_cases zero : significand = 0
  · obtain ⟨rounded, last, decodeEq, valueEq, parityEq⟩ :=
      exists_decode_steps wide negative (Nat.zero_le _) (.inl rfl) (by rwa [Nat.zero_mul])
    rw [encode, if_pos zero, zero, kept_zero, Nat.cast_zero, zero_mul]
    refine ⟨rounded, last, by simpa using decodeEq, by simpa using valueEq, parityEq⟩
  · have lastGe := format.minExponent_le_lastExponent significand exponent
    have finite := finite zero
    rw [magnitude_eq, Nat.pow_eq] at finite
    have rawLt := lt_of_not_ge fun full => finite.ne (min_eq_right full)
    have normal : (format.lastExponent significand exponent - format.minExponent).toNat = 0 ∨
        2 ^ format.fractionBits ≤ format.kept significand exponent := by
      rcases lastGe.eq_or_lt with same | above
      · exact .inl (by omega)
      · exact .inr (le_kept zero (by omega) above)
    obtain ⟨rounded, last, decodeEq, valueEq, parityEq⟩ :=
      exists_decode_steps wide negative (format.kept_le significand exponent) normal rawLt
    refine ⟨rounded, last, ?_, ?_, parityEq⟩
    · rw [encode, if_neg zero, magnitude_eq, Nat.pow_eq, min_eq_left rawLt.le]
      exact decodeEq
    · rw [valueEq, unit, Int.toNat_of_nonneg (by omega)]
      congr 2
      omega

/-- A number that is not too great does not overflow. -/
theorem magnitude_lt (wide : 0 < format.precision) {bound : ℤ}
    (room : max (bound + 1 - format.precision) format.minExponent - format.minExponent + 2 <
      2 ^ format.exponentWidth - 1)
    (le : (significand : ℚ) * 2 ^ exponent ≤ 2 ^ bound) (nonzero : significand ≠ 0) :
    format.magnitude significand exponent < format.infinityPattern := by
  have leSignificand : (2 : ℚ) ^ significand.log2 ≤ significand := by
    exact_mod_cast Nat.log2_self_le nonzero
  have log2Le : exponent + significand.log2 ≤ bound := by
    have powerLe : (2 : ℚ) ^ (exponent + significand.log2) ≤ 2 ^ bound := by
      calc (2 : ℚ) ^ (exponent + significand.log2) = 2 ^ significand.log2 * 2 ^ exponent := by
            rw [zpow_add₀ (by norm_num), zpow_natCast, mul_comm]
        _ ≤ significand * 2 ^ exponent := mul_le_mul_of_nonneg_right leSignificand (by positivity)
        _ ≤ 2 ^ bound := le
    exact (zpow_le_zpow_iff_right₀ (by norm_num)).mp powerLe
  have precisionEq := two_pow_precision wide
  have keptLe := format.kept_le significand exponent
  have fractionPos : 0 < 2 ^ format.fractionBits := Nat.two_pow_pos _
  have stepsLt : (format.lastExponent significand exponent - format.minExponent).toNat + 2 <
      2 ^ format.exponentWidth - 1 := by
    have lastLe : format.lastExponent significand exponent ≤
        max (bound + 1 - format.precision) format.minExponent :=
      max_le_max (by omega) (le_refl _)
    have lastGe := format.minExponent_le_lastExponent significand exponent
    zify [Nat.one_le_two_pow]
    rw [Int.toNat_of_nonneg (by omega)]
    omega
  refine min_lt_iff.mpr (.inl ?_)
  calc (format.lastExponent significand exponent - format.minExponent).toNat *
        Nat.pow 2 format.fractionBits + format.kept significand exponent
      ≤ ((format.lastExponent significand exponent - format.minExponent).toNat + 2) *
          2 ^ format.fractionBits := by
        rw [Nat.pow_eq, add_mul]
        omega
    _ < (2 ^ format.exponentWidth - 1) * 2 ^ format.fractionBits :=
        mul_lt_mul_of_pos_right stepsLt fractionPos
    _ = format.infinityPattern := rfl

end BinaryFormat

end ObjectBridge
