import Mathlib.Algebra.Group.Nat.Defs
import ObjectBridge.Proofs.Text.Passage

/-!
# How octets fall apart

What octets are read as is described here by characters and their encodings alone.  Octets
fall apart, from left to right, into encoded characters and into sequences that are no text;
such a sequence is taken further as long as some character begins with it.  The reader knows
a few digits and the range of the next octet.  What it knows fits exactly the characters that
begin with what it has read, and so it cuts octets where they fall apart.
-/

namespace ObjectBridge.Utf8

/-! ## Beginnings of characters -/

/-- Some character begins with the octets, or is encoded to just them. -/
def Begins (octets : List UInt8) : Prop :=
  ∃ character, octets <+: String.utf8EncodeChar character

/-- Some character begins with the octets and has more of them. -/
def Opens (octets : List UInt8) : Prop :=
  octets ≠ [] ∧ ∃ character more, more ≠ [] ∧ String.utf8EncodeChar character = octets ++ more

/-! ## Digits -/

/-- The octets that carry the last digits of a number, six binary digits each. -/
def continuation (number : Nat) : Nat → List UInt8
  | 0 => []
  | count + 1 => UInt8.ofNat (number / 64 ^ count % 64 + 128) :: continuation number count

/-- The octets of a character are its first digits, marked with their number, and a
continuation. -/
theorem utf8EncodeChar_eq (character : Char) :
    String.utf8EncodeChar character =
      if character.toNat ≤ 0x7F then [UInt8.ofNat character.toNat]
      else if character.toNat ≤ 0x7FF then
        UInt8.ofNat (character.toNat / 64 % 32 + 192) :: continuation character.toNat 1
      else if character.toNat ≤ 0xFFFF then
        UInt8.ofNat (character.toNat / 4096 % 16 + 224) :: continuation character.toNat 2
      else UInt8.ofNat (character.toNat / 262144 % 8 + 240) :: continuation character.toNat 3 := by
  simp only [String.utf8EncodeChar, continuation, Char.toNat_val, Nat.reducePow, Nat.div_one]

/-! ## States -/

/-- A state can be inside the character of a number: it holds the digits before those that the
missing octets carry, and the first of these is in range. -/
structure Partial.Admits (state : Partial) (number : Nat) : Prop where
  code_eq : number / 64 ^ (state.missing - 1) / 64 = state.code
  low_le : state.low.toNat ≤ number / 64 ^ (state.missing - 1) % 64 + 128
  le_high : number / 64 ^ (state.missing - 1) % 64 + 128 ≤ state.high.toNat

/-- A state has taken in octets: it can be inside exactly the characters that begin with them. -/
structure Partial.Follows (state : Partial) (read : List UInt8) : Prop where
  read_ne_nil : read ≠ []
  length_eq : state.length = read.length
  missing_pos : 0 < state.missing
  low_ge : 0x80 ≤ state.low.toNat
  low_le_high : state.low.toNat ≤ state.high.toNat
  high_le : state.high.toNat ≤ 0xBF
  isValidChar : ∀ number, state.Admits number → number.isValidChar
  encode_eq : ∀ character : Char, state.Admits character.toNat →
    String.utf8EncodeChar character = read ++ continuation character.toNat state.missing
  admits : ∀ character : Char, read <+: String.utf8EncodeChar character →
    state.Admits character.toNat

theorem toNat_ofNat_of_isValidChar {number : Nat} (valid : number.isValidChar) :
    (Char.ofNat number).toNat = number := by
  rw [Char.ofNat, dif_pos valid]
  rfl

namespace Partial.Follows

variable {state : Partial} {read : List UInt8} {octet : UInt8}

/-- The next octet of a character carries the next digits of its number. -/
theorem concat_prefix_iff (follows : state.Follows read) {character : Char}
    (admits : state.Admits character.toNat) :
    read ++ [octet] <+: String.utf8EncodeChar character ↔
      octet.toNat = character.toNat / 64 ^ (state.missing - 1) % 64 + 128 := by
  obtain ⟨more, missingEq⟩ := Nat.exists_eq_add_one.mpr follows.missing_pos
  rw [follows.encode_eq character admits, List.prefix_append_right_inj, missingEq, continuation,
    List.singleton_prefix_cons_iff, Nat.add_sub_cancel, ← UInt8.toNat_inj,
    UInt8.toNat_ofNat']
  omega

/-- The character of digits that follow what a state holds. -/
theorem exists_admits (follows : state.Follows read) (digits : Nat) (small : digits < 64)
    (low : state.low.toNat ≤ digits + 128) (high : digits + 128 ≤ state.high.toNat) :
    ∃ character : Char, state.Admits character.toNat ∧
      character.toNat / 64 ^ (state.missing - 1) = state.code * 64 + digits ∧
      character.toNat = (state.code * 64 + digits) * 64 ^ (state.missing - 1) := by
  have quotient : (state.code * 64 + digits) * 64 ^ (state.missing - 1) /
      64 ^ (state.missing - 1) = state.code * 64 + digits :=
    Nat.mul_div_cancel _ (Nat.pow_pos (by decide))
  have admitted : state.Admits ((state.code * 64 + digits) * 64 ^ (state.missing - 1)) := by
    constructor <;> rw [quotient] <;> omega
  have numberEq := toNat_ofNat_of_isValidChar (follows.isValidChar _ admitted)
  refine ⟨Char.ofNat _, ?_, ?_, numberEq⟩
  · rwa [numberEq]
  · rwa [numberEq]

/-- An octet is in range if some character begins with it after what was read. -/
theorem begins_concat_iff (follows : state.Follows read) :
    Begins (read ++ [octet]) ↔ state.low ≤ octet ∧ octet ≤ state.high := by
  rw [UInt8.le_iff_toNat_le, UInt8.le_iff_toNat_le]
  constructor
  · rintro ⟨character, starts⟩
    have admits := follows.admits character ((List.prefix_append _ _).trans starts)
    rw [(follows.concat_prefix_iff admits).mp starts]
    exact ⟨admits.low_le, admits.le_high⟩
  · rintro ⟨low, high⟩
    have lowGe := follows.low_ge
    have highLe := follows.high_le
    obtain ⟨character, admits, topEq, _⟩ :=
      follows.exists_admits (octet.toNat - 0x80) (by omega) (by omega) (by omega)
    refine ⟨character, (follows.concat_prefix_iff admits).mpr ?_⟩
    rw [topEq]
    omega

/-- What was read so far is no whole character. -/
theorem opens (follows : state.Follows read) : Opens read := by
  have lowLe := follows.low_le_high
  obtain ⟨character, more, encodeEq⟩ : Begins (read ++ [state.low]) :=
    follows.begins_concat_iff.mpr ⟨UInt8.le_refl _, UInt8.le_iff_toNat_le.mpr lowLe⟩
  refine ⟨follows.read_ne_nil, character, state.low :: more, List.cons_ne_nil _ _, ?_⟩
  rw [← encodeEq, List.append_assoc, List.singleton_append]

/-- The last octet in range completes a character. -/
theorem encode_last (follows : state.Follows read) (low : state.low ≤ octet)
    (high : octet ≤ state.high) (last : state.missing ≤ 1) :
    String.utf8EncodeChar (Char.ofNat (state.code * 64 + (octet.toNat - 0x80))) =
      read ++ [octet] := by
  rw [UInt8.le_iff_toNat_le] at low high
  have lowGe := follows.low_ge
  have highLe := follows.high_le
  have missingEq : state.missing = 1 := Nat.le_antisymm last follows.missing_pos
  obtain ⟨character, admits, topEq, numberEq⟩ :=
    follows.exists_admits (octet.toNat - 0x80) (by omega) (by omega) (by omega)
  rw [missingEq, Nat.sub_self, Nat.pow_zero, Nat.mul_one] at numberEq
  have octetEq : UInt8.ofNat (character.toNat % 64 + 128) = octet := by
    rw [← UInt8.toNat_inj, UInt8.toNat_ofNat']
    omega
  rw [← numberEq, Char.ofNat_toNat, follows.encode_eq character admits, missingEq, continuation,
    continuation, Nat.pow_zero, Nat.div_one, octetEq]

/-- An octet in range that is not the last is taken in. -/
theorem next (follows : state.Follows read) (low : state.low ≤ octet)
    (high : octet ≤ state.high) (more : 1 < state.missing) :
    Partial.Follows ⟨state.missing - 1, 0x80, 0xBF, state.code * 64 + (octet.toNat - 0x80),
      state.length + 1⟩ (read ++ [octet]) := by
  rw [UInt8.le_iff_toNat_le] at low high
  have lowGe := follows.low_ge
  have highLe := follows.high_le
  have shift (number : Nat) :
      number / 64 ^ (state.missing - 1 - 1) / 64 = number / 64 ^ (state.missing - 1) := by
    rw [Nat.div_div_eq_div_mul, ← Nat.pow_succ]
    congr 2
    omega
  have admitted (number : Nat) (admits : Partial.Admits ⟨state.missing - 1, 0x80, 0xBF,
      state.code * 64 + (octet.toNat - 0x80), state.length + 1⟩ number) :
      state.Admits number ∧ octet.toNat = number / 64 ^ (state.missing - 1) % 64 + 128 := by
    have topEq : number / 64 ^ (state.missing - 1) = state.code * 64 + (octet.toNat - 0x80) :=
      (shift number).symm.trans admits.code_eq
    refine ⟨⟨?_, ?_, ?_⟩, ?_⟩ <;> rw [topEq] <;> omega
  constructor
  case read_ne_nil => simp
  case length_eq => rw [List.length_append, List.length_singleton, follows.length_eq]
  case missing_pos => exact Nat.sub_pos_of_lt more
  case low_ge => exact Nat.le_refl _
  case low_le_high => simp
  case high_le => exact Nat.le_refl _
  case isValidChar =>
    exact fun number admits => follows.isValidChar number (admitted number admits).1
  case encode_eq =>
    intro character admits
    obtain ⟨before, octetEq⟩ := admitted _ admits
    have missingEq : state.missing = state.missing - 1 + 1 := by omega
    rw [follows.encode_eq character before]
    rw [missingEq, continuation, ← octetEq, UInt8.ofNat_toNat, List.append_assoc,
      List.singleton_append]
    simp
  case admits =>
    intro character starts
    have admits := follows.admits character ((List.prefix_append _ _).trans starts)
    have octetEq := (follows.concat_prefix_iff admits).mp starts
    have codeEq := admits.code_eq
    constructor
    · dsimp only
      rw [shift]
      omega
    · simp only [UInt8.reduceToNat]
      omega
    · simp only [UInt8.reduceToNat]
      omega

end Partial.Follows

/-! ## Lead octets -/

section Lead

variable {octet : UInt8}

/-- The first octet of a character. -/
theorem singleton_prefix_iff {character : Char} :
    [octet] <+: String.utf8EncodeChar character ↔
      octet.toNat =
        if character.toNat ≤ 0x7F then character.toNat
        else if character.toNat ≤ 0x7FF then character.toNat / 64 + 192
        else if character.toNat ≤ 0xFFFF then character.toNat / 4096 + 224
        else character.toNat / 262144 + 240 := by
  have valid : character.toNat < 0x110000 := by
    rcases character.valid with low | ⟨_, high⟩
    · exact Nat.lt_trans low (by decide)
    · exact high
  rw [utf8EncodeChar_eq]
  split
  · rw [List.singleton_prefix_cons_iff, ← UInt8.toNat_inj, UInt8.toNat_ofNat']
    omega
  · split
    · rw [List.singleton_prefix_cons_iff, ← UInt8.toNat_inj, UInt8.toNat_ofNat']
      omega
    · split
      · rw [List.singleton_prefix_cons_iff, ← UInt8.toNat_inj, UInt8.toNat_ofNat']
        omega
      · rw [List.singleton_prefix_cons_iff, ← UInt8.toNat_inj, UInt8.toNat_ofNat']
        omega

private theorem toNat_lt (character : Char) :
    character.toNat < 0xD800 ∨ 0xDFFF < character.toNat ∧ character.toNat < 0x110000 :=
  character.valid

theorem follows_two (low : 0xC2 ≤ octet.toNat) (high : octet.toNat < 0xE0) :
    Partial.Follows ⟨1, 0x80, 0xBF, octet.toNat - 0xC0, 1⟩ [octet] where
  read_ne_nil := List.cons_ne_nil _ _
  length_eq := rfl
  missing_pos := Nat.one_pos
  low_ge := Nat.le_refl _
  low_le_high := by simp
  high_le := Nat.le_refl _
  isValidChar number admits := by
    have codeEq := admits.code_eq
    simp only [Nat.sub_self, Nat.pow_zero, Nat.div_one] at codeEq
    exact Or.inl (by omega)
  encode_eq character admits := by
    have codeEq := admits.code_eq
    simp only [Nat.sub_self, Nat.pow_zero, Nat.div_one] at codeEq
    rw [utf8EncodeChar_eq, if_neg (by omega), if_pos (by omega), List.singleton_append]
    congr 1
    rw [← UInt8.toNat_inj, UInt8.toNat_ofNat']
    omega
  admits character starts := by
    rw [singleton_prefix_iff] at starts
    have octetEq : octet.toNat = character.toNat / 64 + 192 := by
      split_ifs at starts <;> omega
    constructor <;> simp only [Nat.sub_self, Nat.pow_zero, Nat.div_one, UInt8.reduceToNat] <;>
      omega

theorem follows_three (low : 0xE0 ≤ octet.toNat) (high : octet.toNat < 0xF0) :
    Partial.Follows ⟨2, if octet.toNat = 0xE0 then 0xA0 else 0x80,
      if octet.toNat = 0xED then 0x9F else 0xBF, octet.toNat - 0xE0, 1⟩ [octet] where
  read_ne_nil := List.cons_ne_nil _ _
  length_eq := rfl
  missing_pos := Nat.two_pos
  low_ge := by dsimp only; split <;> simp
  low_le_high := by dsimp only; split <;> split <;> simp only [UInt8.reduceToNat] <;> omega
  high_le := by dsimp only; split <;> simp
  isValidChar number admits := by
    obtain ⟨codeEq, _, leHigh⟩ := admits
    simp only [Nat.add_one_sub_one, Nat.pow_one, apply_ite UInt8.toNat, UInt8.reduceToNat]
      at codeEq leHigh
    change number < 0xD800 ∨ 0xDFFF < number ∧ number < 0x110000
    split at leHigh <;> omega
  encode_eq character admits := by
    obtain ⟨codeEq, lowLe, _⟩ := admits
    simp only [Nat.add_one_sub_one, Nat.pow_one, apply_ite UInt8.toNat, UInt8.reduceToNat]
      at codeEq lowLe
    have past : 0x7FF < character.toNat := by
      split at lowLe <;> omega
    rw [utf8EncodeChar_eq, if_neg (by omega), if_neg (by omega), if_pos (by omega),
      List.singleton_append]
    congr 1
    rw [← UInt8.toNat_inj, UInt8.toNat_ofNat']
    omega
  admits character starts := by
    rw [singleton_prefix_iff] at starts
    have valid := toNat_lt character
    obtain ⟨past, octetEq⟩ :
        0x7FF < character.toNat ∧ octet.toNat = character.toNat / 4096 + 224 := by
      split_ifs at starts <;> omega
    constructor <;>
      simp only [Nat.add_one_sub_one, Nat.pow_one, apply_ite UInt8.toNat, UInt8.reduceToNat]
    case code_eq => omega
    case low_le => split <;> omega
    case le_high => split <;> omega

theorem follows_four (low : 0xF0 ≤ octet.toNat) (high : octet.toNat ≤ 0xF4) :
    Partial.Follows ⟨3, if octet.toNat = 0xF0 then 0x90 else 0x80,
      if octet.toNat = 0xF4 then 0x8F else 0xBF, octet.toNat - 0xF0, 1⟩ [octet] where
  read_ne_nil := List.cons_ne_nil _ _
  length_eq := rfl
  missing_pos := Nat.succ_pos 2
  low_ge := by dsimp only; split <;> simp
  low_le_high := by dsimp only; split <;> split <;> simp only [UInt8.reduceToNat] <;> omega
  high_le := by dsimp only; split <;> simp
  isValidChar number admits := by
    obtain ⟨codeEq, lowLe, leHigh⟩ := admits
    simp only [Nat.add_one_sub_one, Nat.reducePow, apply_ite UInt8.toNat, UInt8.reduceToNat]
      at codeEq lowLe leHigh
    change number < 0xD800 ∨ 0xDFFF < number ∧ number < 0x110000
    split at lowLe <;> split at leHigh <;> omega
  encode_eq character admits := by
    obtain ⟨codeEq, lowLe, _⟩ := admits
    simp only [Nat.add_one_sub_one, Nat.reducePow, apply_ite UInt8.toNat, UInt8.reduceToNat]
      at codeEq lowLe
    have past : 0xFFFF < character.toNat := by
      split at lowLe <;> omega
    rw [utf8EncodeChar_eq, if_neg (by omega), if_neg (by omega), if_neg (by omega),
      List.singleton_append]
    congr 1
    rw [← UInt8.toNat_inj, UInt8.toNat_ofNat']
    omega
  admits character starts := by
    rw [singleton_prefix_iff] at starts
    have valid := toNat_lt character
    obtain ⟨past, octetEq⟩ :
        0xFFFF < character.toNat ∧ octet.toNat = character.toNat / 262144 + 240 := by
      split_ifs at starts <;> omega
    constructor <;>
      simp only [Nat.add_one_sub_one, Nat.reducePow, apply_ite UInt8.toNat, UInt8.reduceToNat]
    case code_eq => omega
    case low_le => split <;> omega
    case le_high => split <;> omega

/-- No character begins with an octet that is a continuation, would begin an overlong form, or
is too large. -/
theorem not_begins_of_stray
    (stray : 0x80 ≤ octet.toNat ∧ octet.toNat < 0xC2 ∨ 0xF4 < octet.toNat) :
    ¬Begins [octet] := by
  rintro ⟨character, starts⟩
  rw [singleton_prefix_iff] at starts
  have valid := toNat_lt character
  split_ifs at starts <;> omega

theorem lead_of_stray
    (stray : 0x80 ≤ octet.toNat ∧ octet.toNat < 0xC2 ∨ 0xF4 < octet.toNat) :
    lead octet = .piece (.malformed 1) := by
  rcases stray with ⟨low, high⟩ | high
  · simp only [lead, if_neg (Nat.not_lt.mpr low), if_pos high]
  · simp only [lead]
    repeat rw [if_neg (by omega)]

/-- The first octet of a piece is a character, begins none, or leads inside one. -/
theorem lead_cases (octet : UInt8) :
    (lead octet = .piece (.scalar (Char.ofNat octet.toNat)) ∧
      String.utf8EncodeChar (Char.ofNat octet.toNat) = [octet]) ∨
    (lead octet = .piece (.malformed 1) ∧ ¬Begins [octet]) ∨
    ∃ state, lead octet = .inside state ∧ state.Follows [octet] := by
  by_cases stray : 0x80 ≤ octet.toNat ∧ octet.toNat < 0xC2 ∨ 0xF4 < octet.toNat
  · exact .inr (.inl ⟨lead_of_stray stray, not_begins_of_stray stray⟩)
  · by_cases one : octet.toNat < 0x80
    · have numberEq : (Char.ofNat octet.toNat).toNat = octet.toNat :=
        toNat_ofNat_of_isValidChar (Or.inl (by omega))
      refine .inl ⟨lead_of_one one, ?_⟩
      rw [utf8EncodeChar_eq, numberEq, if_pos (by omega), UInt8.ofNat_toNat]
    · refine .inr (.inr ?_)
      by_cases two : octet.toNat < 0xE0
      · exact ⟨_, lead_of_two (by omega) two, follows_two (by omega) two⟩
      · by_cases three : octet.toNat < 0xF0
        · exact ⟨_, lead_of_three (by omega) three, follows_three (by omega) three⟩
        · exact ⟨_, lead_of_four (by omega) (by omega), follows_four (by omega) (by omega)⟩

end Lead

/-! ## Pieces -/

/-- Octets that are no text, up to where no character can begin with more of them, and what
comes after them. -/
inductive Invalid : List UInt8 → List UInt8 → Piece → Prop
  | stray {octet : UInt8} {rest : List UInt8} :
      ¬Begins [octet] → Invalid [octet] rest (.malformed 1)
  | broken {octets : List UInt8} {octet : UInt8} {rest : List UInt8} :
      Opens octets → ¬Begins (octets ++ [octet]) →
      Invalid octets (octet :: rest) (.malformed octets.length)
  | unfinished {octets : List UInt8} :
      Opens octets → Invalid octets [] (.truncated octets.length)

/-- How octets fall apart, from left to right, into characters and what is no text. -/
inductive Cut : List UInt8 → List Piece → Prop
  | done : Cut [] []
  | scalar (character : Char) {rest : List UInt8} {pieces : List Piece} :
      Cut rest pieces →
      Cut (String.utf8EncodeChar character ++ rest) (.scalar character :: pieces)
  | invalid {octets rest : List UInt8} {piece : Piece} {pieces : List Piece} :
      Invalid octets rest piece → Cut rest pieces → Cut (octets ++ rest) (piece :: pieces)

/-- The pieces that begin with an octet, if those after it are cut right. -/
private theorem cut_lead {rest : List UInt8} (octet : UInt8)
    (between : Cut rest (pieces none rest))
    (inside : ∀ state read, Partial.Follows state read →
      Cut (read ++ rest) (pieces (some state) rest)) :
    Cut (octet :: rest) (match lead octet with
      | .piece piece => piece :: pieces none rest
      | .inside state => pieces (some state) rest) := by
  rcases lead_cases octet with ⟨leadEq, encodeEq⟩ | ⟨leadEq, stray⟩ | ⟨state, leadEq, follows⟩
  · have cut := Cut.scalar (Char.ofNat octet.toNat) between
    rw [encodeEq] at cut
    rwa [leadEq]
  · rw [leadEq]
    exact .invalid (.stray stray) between
  · rw [leadEq]
    exact inside state [octet] follows

/-- The reader cuts octets where they fall apart, also from inside a character. -/
theorem cut_pieces_of_follows (octets : List UInt8) :
    Cut octets (pieces none octets) ∧
      ∀ state read, Partial.Follows state read →
        Cut (read ++ octets) (pieces (some state) octets) := by
  induction octets with
  | nil =>
      refine ⟨.done, fun state read follows => ?_⟩
      rw [pieces, follows.length_eq]
      exact .invalid (.unfinished follows.opens) .done
  | cons octet rest ih =>
      obtain ⟨between, inside⟩ := ih
      have led := cut_lead octet between inside
      refine ⟨led, fun state read follows => ?_⟩
      rw [pieces]
      split
      · rename_i inRange
        obtain ⟨low, high⟩ : state.low ≤ octet ∧ octet ≤ state.high := by
          simpa using inRange
        dsimp only
        split
        · rename_i last
          have cut := Cut.scalar (Char.ofNat (state.code * 64 + (octet.toNat - 0x80))) between
          rwa [follows.encode_last low high last, List.append_assoc] at cut
        · rename_i more
          have cut := inside _ _ (follows.next low high (Nat.lt_of_not_le more))
          rwa [List.append_assoc] at cut
      · rename_i outOfRange
        have refused : ¬Begins (read ++ [octet]) := by
          rw [follows.begins_concat_iff]
          simpa using outOfRange
        rw [follows.length_eq]
        exact .invalid (.broken follows.opens refused) led

theorem cut_pieces (octets : List UInt8) : Cut octets (pieces none octets) :=
  (cut_pieces_of_follows octets).1

end ObjectBridge.Utf8
