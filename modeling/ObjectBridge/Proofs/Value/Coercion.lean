import ObjectBridge.Value.Basic

/-!
# Coercion keeps numbers

Which kinds widen is a table, and values are converted through words of 64 bits that
take only some of the kinds and are cut to the bits of the target.  The two are written
apart from each other, and here they are shown to agree: a value is passed exactly
where its kind widens, and an integer that is passed for an integer kind is the number
that it was.  The range of numbers that a kind has carries the argument: where kinds
widen the ranges do, so a number that is cut to the bits of the target loses none.
-/

namespace ObjectBridge

/-! ## Kinds -/

namespace Kind

/-- The least number of an integer kind. -/
def least : Kind → Int
  | sbyte => -0x80
  | short => -0x8000
  | int => -0x80000000
  | long => -0x8000000000000000
  | byte | ushort | uint | ulong | float | double | bool | pointer => 0

/-- The greatest number of an integer kind. -/
def greatest : Kind → Int
  | sbyte => 0x7F
  | byte => 0xFF
  | short => 0x7FFF
  | ushort => 0xFFFF
  | int => 0x7FFFFFFF
  | uint => 0xFFFFFFFF
  | long => 0x7FFFFFFFFFFFFFFF
  | ulong => 0xFFFFFFFFFFFFFFFF
  | float | double | bool | pointer => 0

/-- The numbers of an integer kind. -/
structure Holds (kind : Kind) (number : Int) : Prop where
  least_le : kind.least ≤ number
  le_greatest : number ≤ kind.greatest

variable {source middle target : Kind} {number : Int}

/-- A kind widens to itself, an integer kind to integer and floating kinds, and single
precision to double precision. -/
theorem widensTo_cases (widens : source.widensTo target = true) :
    source = target ∨
      (source.isInteger = true ∧
        (target.isInteger = true ∨ target = .float ∨ target = .double)) ∨
      (source = .float ∧ target = .double) := by
  cases source <;> cases target <;> first | contradiction | simp [isInteger]

/-- What a wider kind widens to, the kind itself widens to. -/
theorem wider_subset (member : middle ∈ source.wider) : middle.wider ⊆ source.wider := by
  have closed : ∀ kind ∈ source.wider, kind.wider ⊆ source.wider := by
    cases source <;> decide
  exact closed middle member

theorem widensTo_iff : source.widensTo target = true ↔ source = target ∨ target ∈ source.wider := by
  simp [widensTo]

theorem widensTo_trans (first : source.widensTo middle = true)
    (second : middle.widensTo target = true) : source.widensTo target = true := by
  rw [widensTo_iff] at first second ⊢
  rcases first with rfl | first
  · exact second
  · rcases second with rfl | second
    · exact .inr first
    · exact .inr (wider_subset first second)

/-- Where integer kinds widen, the target has every number of the source. -/
theorem Holds.of_widensTo (holds : source.Holds number) (integer : source.isInteger = true)
    (targetInteger : target.isInteger = true) (widens : source.widensTo target = true) :
    target.Holds number := by
  have ranges : target.least ≤ source.least ∧ source.greatest ≤ target.greatest := by
    cases source <;> cases target <;> first | contradiction | decide
  exact ⟨Int.le_trans ranges.1 holds.least_le, Int.le_trans holds.le_greatest ranges.2⟩

end Kind

namespace Value

variable {value passed : Value} {source target : Kind} {number : Int}

/-! ## Numbers -/

theorem isSome_toInt? (value : Value) : value.toInt?.isSome = value.kind.isInteger := by
  cases value <;> rfl

theorem exists_toInt? (integer : value.kind.isInteger = true) :
    ∃ number, value.toInt? = some number :=
  Option.isSome_iff_exists.mp (value.isSome_toInt?.trans integer)

/-- The number of a value is one of its kind. -/
theorem holds_of_toInt? (denotes : value.toInt? = some number) : value.kind.Holds number := by
  cases value with
  | sbyte word =>
      cases denotes
      exact ⟨word.le_toInt, Int.le_of_lt_add_one word.toInt_lt⟩
  | short word =>
      cases denotes
      exact ⟨word.le_toInt, Int.le_of_lt_add_one word.toInt_lt⟩
  | int word =>
      cases denotes
      exact ⟨word.le_toInt, Int.le_of_lt_add_one word.toInt_lt⟩
  | long word =>
      cases denotes
      exact ⟨word.le_toInt, Int.le_of_lt_add_one word.toInt_lt⟩
  | byte word =>
      cases denotes
      exact ⟨Int.natCast_nonneg _, Int.ofNat_le.mpr (Nat.le_of_lt_succ word.toNat_lt)⟩
  | ushort word =>
      cases denotes
      exact ⟨Int.natCast_nonneg _, Int.ofNat_le.mpr (Nat.le_of_lt_succ word.toNat_lt)⟩
  | uint word =>
      cases denotes
      exact ⟨Int.natCast_nonneg _, Int.ofNat_le.mpr (Nat.le_of_lt_succ word.toNat_lt)⟩
  | ulong word =>
      cases denotes
      exact ⟨Int.natCast_nonneg _, Int.ofNat_le.mpr (Nat.le_of_lt_succ word.toNat_lt)⟩
  | float | double | bool | pointer => contradiction

/-- Two values of one integer kind are equal if their numbers are. -/
theorem eq_of_toInt? {other : Value} (kindEq : other.kind = value.kind)
    (denotes : value.toInt? = some number) (otherDenotes : other.toInt? = some number) :
    other = value := by
  have same : value.toInt? = other.toInt? := denotes.trans otherDenotes.symm
  cases value <;> cases other <;> cases kindEq <;> first
    | contradiction
    | simpa [toInt?, Int.natCast_inj, Int8.toInt_inj, Int16.toInt_inj, Int32.toInt_inj,
        Int64.toInt_inj, UInt8.toNat_inj, UInt16.toNat_inj, UInt32.toNat_inj,
        UInt64.toNat_inj] using same.symm

/-! ## Words -/

private theorem toInt_toInt64 {word : UInt64} (small : word.toNat < 0x8000000000000000) :
    word.toInt64.toInt = word.toNat := by
  have double : 2 * word.toNat < 0x10000000000000000 := by omega
  exact BitVec.toInt_eq_toNat_of_lt double

/-- Every integer goes through a signed word, unless it is of the widest unsigned kind. -/
theorem exists_toInt64? (denotes : value.toInt? = some number)
    (signed : value.kind.widensTo .long = true) :
    ∃ word, value.toInt64? = some word ∧ word.toInt = number := by
  cases value with
  | sbyte word =>
      cases denotes
      exact ⟨_, rfl, word.toInt_toInt64⟩
  | short word =>
      cases denotes
      exact ⟨_, rfl, word.toInt_toInt64⟩
  | int word =>
      cases denotes
      exact ⟨_, rfl, word.toInt_toInt64⟩
  | long word =>
      cases denotes
      exact ⟨_, rfl, rfl⟩
  | byte word =>
      cases denotes
      have bound := word.toNat_lt
      have small : word.toUInt64.toNat < 0x8000000000000000 := by
        rw [UInt8.toNat_toUInt64]
        omega
      exact ⟨_, rfl, toInt_toInt64 small⟩
  | ushort word =>
      cases denotes
      have bound := word.toNat_lt
      have small : word.toUInt64.toNat < 0x8000000000000000 := by
        rw [UInt16.toNat_toUInt64]
        omega
      exact ⟨_, rfl, toInt_toInt64 small⟩
  | uint word =>
      cases denotes
      have bound := word.toNat_lt
      have small : word.toUInt64.toNat < 0x8000000000000000 := by
        rw [UInt32.toNat_toUInt64]
        omega
      exact ⟨_, rfl, toInt_toInt64 small⟩
  | ulong | float | double | bool | pointer => contradiction

/-- Every integer of an unsigned kind goes through an unsigned word. -/
theorem exists_toUInt64? (denotes : value.toInt? = some number)
    (unsigned : value.kind.widensTo .ulong = true) :
    ∃ word, value.toUInt64? = some word ∧ (word.toNat : Int) = number := by
  cases value with
  | byte word | ushort word | uint word =>
      cases denotes
      exact ⟨_, rfl, by simp⟩
  | ulong word =>
      cases denotes
      exact ⟨_, rfl, rfl⟩
  | sbyte | short | int | long | float | double | bool | pointer => contradiction

/-! ## Conversion -/

/-- Where an integer kind widens to another, conversion keeps the number: the word that it
goes through has it, and it is in the range to which the word is cut. -/
theorem exists_convert?_of_integer (denotes : value.toInt? = some number)
    (integer : target.isInteger = true) (widens : value.kind.widensTo target = true)
    (differs : value.kind ≠ target) :
    ∃ passed, value.convert? target = some passed ∧ passed.kind = target ∧
      passed.toInt? = some number := by
  have sourceInteger : value.kind.isInteger = true := by
    rw [← isSome_toInt?, denotes]
    rfl
  have holds := (holds_of_toInt? denotes).of_widensTo sourceInteger integer widens
  cases target with
  | sbyte | byte => cases value <;> contradiction
  | float | double | bool | pointer => contradiction
  | short =>
      obtain ⟨word, wordEq, rfl⟩ := exists_toInt64? denotes (Kind.widensTo_trans widens rfl)
      have cut : word.toInt16.toInt = word.toInt :=
        (Int64.toInt_toInt16 word).trans
          (Int.bmod_eq_of_le holds.least_le (Int.lt_add_one_of_le holds.le_greatest))
      exact ⟨_, congrArg (Option.map _) wordEq, rfl, congrArg some cut⟩
  | int =>
      obtain ⟨word, wordEq, rfl⟩ := exists_toInt64? denotes (Kind.widensTo_trans widens rfl)
      have cut : word.toInt32.toInt = word.toInt :=
        (Int64.toInt_toInt32 word).trans
          (Int.bmod_eq_of_le holds.least_le (Int.lt_add_one_of_le holds.le_greatest))
      exact ⟨_, congrArg (Option.map _) wordEq, rfl, congrArg some cut⟩
  | long =>
      obtain ⟨word, wordEq, rfl⟩ := exists_toInt64? denotes widens
      exact ⟨_, congrArg (Option.map _) wordEq, rfl, rfl⟩
  | ushort =>
      obtain ⟨word, wordEq, rfl⟩ := exists_toUInt64? denotes (Kind.widensTo_trans widens rfl)
      have cut : word.toUInt16.toNat = word.toNat :=
        (UInt64.toNat_toUInt16 word).trans
          (Nat.mod_eq_of_lt (Nat.lt_succ_of_le (Int.ofNat_le.mp holds.le_greatest)))
      exact ⟨_, congrArg (Option.map _) wordEq, rfl,
        congrArg some (congrArg (fun number : Nat => (number : Int)) cut)⟩
  | uint =>
      obtain ⟨word, wordEq, rfl⟩ := exists_toUInt64? denotes (Kind.widensTo_trans widens rfl)
      have cut : word.toUInt32.toNat = word.toNat :=
        (UInt64.toNat_toUInt32 word).trans
          (Nat.mod_eq_of_lt (Nat.lt_succ_of_le (Int.ofNat_le.mp holds.le_greatest)))
      exact ⟨_, congrArg (Option.map _) wordEq, rfl,
        congrArg some (congrArg (fun number : Nat => (number : Int)) cut)⟩
  | ulong =>
      obtain ⟨word, wordEq, rfl⟩ := exists_toUInt64? denotes widens
      exact ⟨_, congrArg (Option.map _) wordEq, rfl, rfl⟩

/-- An integer is brought to double precision in one step, whichever word it goes
through. -/
theorem toDouble?_of_toInt? (denotes : value.toInt? = some number) :
    value.toDouble? = some (.ofInt number) := by
  cases value with
  | ulong word =>
      cases denotes
      rfl
  | float | double | bool | pointer => contradiction
  | _ =>
      obtain ⟨word, wordEq, rfl⟩ := exists_toInt64? denotes rfl
      exact congrArg (Option.map fun word : Int64 => Binary64.ofInt word.toInt) wordEq

/-! ## Coercion -/

theorem coerce_self (value : Value) : value.coerce value.kind = some value := by
  rw [coerce, if_pos (Kind.widensTo_self _), if_pos rfl]

/-- An integer that is passed for an integer kind is the same number. -/
theorem exists_coerce_of_integer (denotes : value.toInt? = some number)
    (integer : target.isInteger = true) (widens : value.kind.widensTo target = true) :
    ∃ passed, value.coerce target = some passed ∧ passed.kind = target ∧
      passed.toInt? = some number := by
  rw [coerce, if_pos widens]
  split
  · rename_i same
    exact ⟨value, rfl, same, denotes⟩
  · rename_i differs
    exact exists_convert?_of_integer denotes integer widens differs

/-- An integer is passed in double precision as the double nearest to it. -/
theorem coerce_double (denotes : value.toInt? = some number) :
    value.coerce .double = some (.double (.ofInt number)) := by
  have convertEq : value.convert? .double = some (.double (.ofInt number)) :=
    congrArg (Option.map double) (toDouble?_of_toInt? denotes)
  cases value with
  | float | double | bool | pointer => contradiction
  | _ => exact convertEq

/-- An integer is passed in single precision as the single nearest to the double that is
nearest to it. -/
theorem coerce_float (denotes : value.toInt? = some number) :
    value.coerce .float = some (.float (.ofBinary64 (.ofInt number))) := by
  have convertEq : value.convert? .float = some (.float (.ofBinary64 (.ofInt number))) :=
    congrArg (Option.map fun number => float (.ofBinary64 number)) (toDouble?_of_toInt? denotes)
  cases value with
  | float | double | bool | pointer => contradiction
  | _ => exact convertEq

/-- A value is passed where its kind widens, as a value of the declared kind. -/
theorem exists_coerce (widens : value.kind.widensTo target = true) :
    ∃ passed, value.coerce target = some passed ∧ passed.kind = target := by
  rcases Kind.widensTo_cases widens with rfl | ⟨integer, numeric⟩ | ⟨single, rfl⟩
  · exact ⟨value, value.coerce_self, rfl⟩
  · obtain ⟨number, denotes⟩ := exists_toInt? integer
    rcases numeric with targetInteger | rfl | rfl
    · obtain ⟨passed, passes, kindEq, _⟩ := exists_coerce_of_integer denotes targetInteger widens
      exact ⟨passed, passes, kindEq⟩
    · exact ⟨_, coerce_float denotes, rfl⟩
    · exact ⟨_, coerce_double denotes, rfl⟩
  · cases value with
    | float number => exact ⟨_, rfl, rfl⟩
    | _ => contradiction

theorem isSome_coerce (value : Value) (target : Kind) :
    (value.coerce target).isSome = value.kind.widensTo target := by
  cases widens : value.kind.widensTo target with
  | false => simp [coerce, widens]
  | true =>
      obtain ⟨passed, passes, _⟩ := exists_coerce widens
      rw [passes, Option.isSome_some]

theorem coerce_eq_none_iff : value.coerce target = none ↔ value.kind.widensTo target = false := by
  rw [← isSome_coerce, Option.isSome_eq_false_iff, Option.isNone_iff_eq_none]

theorem kind_of_coerce (passes : value.coerce target = some passed) : passed.kind = target := by
  have widens : value.kind.widensTo target = true := by
    rw [← isSome_coerce, passes, Option.isSome_some]
  obtain ⟨other, otherEq, kindEq⟩ := exists_coerce widens
  rw [passes] at otherEq
  cases otherEq
  exact kindEq

/-- An integer that is passed for an integer kind may be passed on from there as if it
came directly. -/
theorem coerce_of_coerce {middle : Kind} (integer : middle.isInteger = true)
    (first : value.kind.widensTo middle = true) (second : middle.widensTo target = true) :
    ∃ passed last, value.coerce middle = some passed ∧ passed.coerce target = some last ∧
      value.coerce target = some last := by
  have sourceInteger : value.kind.isInteger = true := by
    rcases Kind.widensTo_cases first with same | ⟨sourceInteger, _⟩ | ⟨_, rfl⟩
    · rw [same, integer]
    · exact sourceInteger
    · contradiction
  obtain ⟨number, denotes⟩ := exists_toInt? sourceInteger
  obtain ⟨passed, passes, rfl, passedDenotes⟩ := exists_coerce_of_integer denotes integer first
  -- From here on both ways start with the same number.
  rcases Kind.widensTo_cases second with rfl | ⟨_, targetInteger | rfl | rfl⟩ | ⟨single, rfl⟩
  · exact ⟨passed, passed, passes, passed.coerce_self, passes⟩
  · obtain ⟨last, lastEq, lastKind, lastDenotes⟩ :=
      exists_coerce_of_integer passedDenotes targetInteger second
    obtain ⟨direct, directEq, directKind, directDenotes⟩ :=
      exists_coerce_of_integer denotes targetInteger (Kind.widensTo_trans first second)
    have same : direct = last :=
      eq_of_toInt? (directKind.trans lastKind.symm) lastDenotes directDenotes
    exact ⟨passed, last, passes, lastEq, same ▸ directEq⟩
  · exact ⟨passed, _, passes, coerce_float passedDenotes, coerce_float denotes⟩
  · exact ⟨passed, _, passes, coerce_double passedDenotes, coerce_double denotes⟩
  · rw [single] at integer
    contradiction

/-- A value is passed for a kind exactly if its own widens to it, as a value of that kind:
as it is for its own kind, and as the same number from an integer kind to another.  An
integer may take a detour through any integer kind between. -/
theorem coercion_keeps_numbers (value : Value) (target : Kind) :
    (value.coerce target).isSome = value.kind.widensTo target ∧
    (∀ passed, value.coerce target = some passed → passed.kind = target) ∧
    (target = value.kind → value.coerce target = some value) ∧
    (∀ passed, value.kind.isInteger = true → target.isInteger = true →
      value.coerce target = some passed →
        ∃ number, value.toInt? = some number ∧ passed.toInt? = some number) ∧
    ∀ middle : Kind, middle.isInteger = true → value.kind.widensTo middle = true →
      middle.widensTo target = true →
        ∃ passed last, value.coerce middle = some passed ∧
          passed.coerce target = some last ∧ value.coerce target = some last := by
  refine ⟨value.isSome_coerce target, fun _ => kind_of_coerce, ?_, ?_, ?_⟩
  · rintro rfl
    exact value.coerce_self
  · intro passed integer targetInteger passes
    obtain ⟨number, denotes⟩ := exists_toInt? integer
    have widens : value.kind.widensTo target = true := by
      rw [← isSome_coerce, passes, Option.isSome_some]
    obtain ⟨other, otherEq, _, otherDenotes⟩ :=
      exists_coerce_of_integer denotes targetInteger widens
    rw [passes] at otherEq
    cases otherEq
    exact ⟨number, denotes, otherDenotes⟩
  · exact fun middle integer first second => coerce_of_coerce integer first second

/-- The least number of eight bits keeps its sign on the way to 64 bits, and is the same
single whether it goes there directly or not. -/
theorem coercion_keeps_numbers_least :
    ((sbyte (-128)).coerce .long = some (long (-128)) ∧
      ∃ number, (sbyte (-128)).toInt? = some number ∧ (long (-128)).toInt? = some number) ∧
    ∃ passed last, (sbyte (-128)).coerce .short = some passed ∧
      passed.coerce .float = some last ∧ (sbyte (-128)).coerce .float = some last := by
  have widened : (sbyte (-128)).coerce .long = some (long (-128)) := by decide
  constructor
  · exact ⟨widened, (coercion_keeps_numbers _ .long).2.2.2.1 _ rfl rfl widened⟩
  · exact (coercion_keeps_numbers _ .float).2.2.2.2 .short rfl rfl rfl

end Value

end ObjectBridge
