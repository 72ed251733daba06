import Mathlib.Data.List.Basic
import ObjectBridge.Text.Interop

/-!
# Text passes native strings

Text goes out as UTF-8 and is read back as it was.  The reader takes the octets of
one character at a time, so what it makes of a text is decided character by
character.  No octet of a character is zero unless the character is, so a native
string of a shielded text ends where the text does.
-/

namespace ObjectBridge

namespace Utf8

/-! ## Lead octets -/

section Lead

variable {octet : UInt8}

theorem lead_of_one (high : octet.toNat < 0x80) :
    lead octet = .piece (.scalar (Char.ofNat octet.toNat)) := by
  simp only [lead, if_pos high]

theorem lead_of_two (low : 0xC2 ≤ octet.toNat) (high : octet.toNat < 0xE0) :
    lead octet = .inside ⟨1, 0x80, 0xBF, octet.toNat - 0xC0, 1⟩ := by
  have pastOne : ¬octet.toNat < 0x80 := by omega
  have inTwo : ¬octet.toNat < 0xC2 := by omega
  simp only [lead, if_neg pastOne, if_neg inTwo, if_pos high]

theorem lead_of_three (low : 0xE0 ≤ octet.toNat) (high : octet.toNat < 0xF0) :
    lead octet = .inside ⟨2, if octet.toNat = 0xE0 then 0xA0 else 0x80,
      if octet.toNat = 0xED then 0x9F else 0xBF, octet.toNat - 0xE0, 1⟩ := by
  have pastOne : ¬octet.toNat < 0x80 := by omega
  have pastBare : ¬octet.toNat < 0xC2 := by omega
  have pastTwo : ¬octet.toNat < 0xE0 := by omega
  simp only [lead, if_neg pastOne, if_neg pastBare, if_neg pastTwo, if_pos high]
  split
  · rename_i first
    simp [first]
  · split
    · rename_i surrogates
      simp [surrogates]
    · rfl

theorem lead_of_four (low : 0xF0 ≤ octet.toNat) (high : octet.toNat ≤ 0xF4) :
    lead octet = .inside ⟨3, if octet.toNat = 0xF0 then 0x90 else 0x80,
      if octet.toNat = 0xF4 then 0x8F else 0xBF, octet.toNat - 0xF0, 1⟩ := by
  have pastOne : ¬octet.toNat < 0x80 := by omega
  have pastBare : ¬octet.toNat < 0xC2 := by omega
  have pastTwo : ¬octet.toNat < 0xE0 := by omega
  have pastThree : ¬octet.toNat < 0xF0 := by omega
  have notFirst : octet.toNat ≠ 0xE0 := by omega
  have notSurrogates : octet.toNat ≠ 0xED := by omega
  simp only [lead, if_neg pastOne, if_neg pastBare, if_neg pastTwo, if_neg pastThree,
    if_neg notFirst, if_neg notSurrogates]
  split
  · rename_i first
    simp [first]
  · split
    · rename_i middle
      rw [if_neg (by omega)]
    · have last : octet.toNat = 0xF4 := by omega
      simp [last]

end Lead

/-! ## Characters -/

private theorem toNat_ofNat_of_lt {number : Nat} (small : number < 256) :
    (UInt8.ofNat number).toNat = number := by
  rw [UInt8.toNat_ofNat']
  exact Nat.mod_eq_of_lt small

private theorem pieces_of_lead {octet : UInt8} {rest : List UInt8} {state : Partial}
    (inside : lead octet = .inside state) :
    pieces none (octet :: rest) = pieces (some state) rest := by
  simp only [pieces, inside]

section Continuation

variable {state : Partial} {number : Nat} {rest : List UInt8}

private theorem digits_eq (codeEq : state.code = number / 64) :
    state.code * 64 + ((UInt8.ofNat (number % 64 + 128)).toNat - 0x80) = number := by
  rw [toNat_ofNat_of_lt (by omega), codeEq]
  omega

private theorem inRange (low : state.low.toNat ≤ number % 64 + 128)
    (high : number % 64 + 128 ≤ state.high.toNat) :
    (decide (state.low ≤ UInt8.ofNat (number % 64 + 128)) &&
      decide (UInt8.ofNat (number % 64 + 128) ≤ state.high)) = true := by
  have octetEq : (UInt8.ofNat (number % 64 + 128)).toNat = number % 64 + 128 :=
    toNat_ofNat_of_lt (by omega)
  rw [Bool.and_eq_true, decide_eq_true_iff, decide_eq_true_iff, UInt8.le_iff_toNat_le,
    UInt8.le_iff_toNat_le, octetEq]
  exact ⟨low, high⟩

/-- The last six digits of a character complete it. -/
private theorem pieces_last (codeEq : state.code = number / 64)
    (low : state.low.toNat ≤ number % 64 + 128) (high : number % 64 + 128 ≤ state.high.toNat)
    (last : state.missing = 1) :
    pieces (some state) (UInt8.ofNat (number % 64 + 128) :: rest) =
      .scalar (Char.ofNat number) :: pieces none rest := by
  simp only [pieces, if_pos (inRange low high), if_pos (Nat.le_of_eq last), digits_eq codeEq]

/-- Six digits before the last ones are taken in. -/
private theorem pieces_inside (codeEq : state.code = number / 64)
    (low : state.low.toNat ≤ number % 64 + 128) (high : number % 64 + 128 ≤ state.high.toNat)
    (more : 1 < state.missing) :
    pieces (some state) (UInt8.ofNat (number % 64 + 128) :: rest) =
      pieces (some ⟨state.missing - 1, 0x80, 0xBF, number, state.length + 1⟩) rest := by
  simp only [pieces, if_pos (inRange low high), if_neg (Nat.not_le.mpr more), digits_eq codeEq]

end Continuation

section Octets

variable {number : Nat} {rest : List UInt8}

private theorem low_le_octet (number : Nat) : (0x80 : UInt8).toNat ≤ number % 64 + 128 := by
  simp only [UInt8.reduceToNat]
  omega

private theorem octet_le_high (number : Nat) : number % 64 + 128 ≤ (0xBF : UInt8).toNat := by
  simp only [UInt8.reduceToNat]
  omega

private theorem pieces_of_one (high : number ≤ 0x7F) :
    pieces none (UInt8.ofNat number :: rest) = .scalar (Char.ofNat number) :: pieces none rest := by
  have octetEq : (UInt8.ofNat number).toNat = number := toNat_ofNat_of_lt (by omega)
  have ascii := @lead_of_one (UInt8.ofNat number) (by omega)
  rw [octetEq] at ascii
  simp only [pieces, ascii]

private theorem pieces_of_two (low : 0x7F < number) (high : number ≤ 0x7FF) :
    pieces none (UInt8.ofNat (number / 64 % 32 + 192) ::
      UInt8.ofNat (number % 64 + 128) :: rest) =
        .scalar (Char.ofNat number) :: pieces none rest := by
  have first : (UInt8.ofNat (number / 64 % 32 + 192)).toNat = number / 64 + 192 := by
    rw [toNat_ofNat_of_lt (by omega)]
    omega
  rw [pieces_of_lead (lead_of_two (by omega) (by omega)), first]
  exact pieces_last (Nat.add_sub_cancel _ _) (low_le_octet _) (octet_le_high _) rfl

private theorem pieces_of_three (low : 0x7FF < number) (high : number ≤ 0xFFFF)
    (noSurrogate : number < 0xD800 ∨ 0xDFFF < number) :
    pieces none (UInt8.ofNat (number / 4096 % 16 + 224) ::
      UInt8.ofNat (number / 64 % 64 + 128) :: UInt8.ofNat (number % 64 + 128) :: rest) =
        .scalar (Char.ofNat number) :: pieces none rest := by
  have first : (UInt8.ofNat (number / 4096 % 16 + 224)).toNat = number / 4096 + 224 := by
    rw [toNat_ofNat_of_lt (by omega)]
    omega
  have firstDigits : number / 4096 + 224 - 0xE0 = number / 64 / 64 := by omega
  rw [pieces_of_lead (lead_of_three (by omega) (by omega)), first]
  refine Eq.trans (pieces_inside firstDigits ?_ ?_ (Nat.lt_succ_self 1))
    (pieces_last rfl (low_le_octet _) (octet_le_high _) rfl)
  · dsimp only
    split <;> simp only [UInt8.reduceToNat] <;> omega
  · dsimp only
    split <;> simp only [UInt8.reduceToNat] <;> omega

private theorem pieces_of_four (low : 0xFFFF < number) (high : number < 0x110000) :
    pieces none (UInt8.ofNat (number / 262144 % 8 + 240) ::
      UInt8.ofNat (number / 4096 % 64 + 128) :: UInt8.ofNat (number / 64 % 64 + 128) ::
        UInt8.ofNat (number % 64 + 128) :: rest) =
          .scalar (Char.ofNat number) :: pieces none rest := by
  have first : (UInt8.ofNat (number / 262144 % 8 + 240)).toNat = number / 262144 + 240 := by
    rw [toNat_ofNat_of_lt (by omega)]
    omega
  have firstDigits : number / 262144 + 240 - 0xF0 = number / 4096 / 64 := by omega
  have secondDigits : number / 4096 = number / 64 / 64 := by omega
  rw [pieces_of_lead (lead_of_four (by omega) (by omega)), first]
  refine Eq.trans (pieces_inside firstDigits ?_ ?_ (Nat.lt_add_left 1 (Nat.lt_succ_self 1)))
    (Eq.trans
      (pieces_inside secondDigits (low_le_octet _) (octet_le_high _) (Nat.lt_succ_self 1))
      (pieces_last rfl (low_le_octet _) (octet_le_high _) rfl))
  · dsimp only
    split <;> simp only [UInt8.reduceToNat] <;> omega
  · dsimp only
    split <;> simp only [UInt8.reduceToNat] <;> omega

end Octets

/-- The octets of a character are read as that character. -/
theorem pieces_utf8EncodeChar_append (character : Char) (rest : List UInt8) :
    pieces none (String.utf8EncodeChar character ++ rest) =
      .scalar character :: pieces none rest := by
  have valid : character.val.toNat < 0xD800 ∨
      (0xDFFF < character.val.toNat ∧ character.val.toNat < 0x110000) := character.valid
  have ofNatEq : Char.ofNat character.val.toNat = character := Char.ofNat_toNat character
  rw [String.utf8EncodeChar]
  generalize character.val.toNat = number at valid ofNatEq
  rw [← ofNatEq]
  split
  · rename_i one
    exact pieces_of_one one
  · rename_i pastOne
    split
    · rename_i two
      exact pieces_of_two (Nat.lt_of_not_le pastOne) two
    · rename_i pastTwo
      split
      · rename_i three
        exact pieces_of_three (Nat.lt_of_not_le pastTwo) three (valid.imp_right And.left)
      · rename_i pastThree
        exact pieces_of_four (Nat.lt_of_not_le pastThree) (by omega)

/-- The octets of a text are read as its characters. -/
theorem pieces_encode (text : List Char) : pieces none (encode text) = text.map .scalar := by
  induction text with
  | nil => rfl
  | cons character rest ih =>
      have encodeEq : encode (character :: rest) =
          String.utf8EncodeChar character ++ encode rest := rfl
      rw [encodeEq, pieces_utf8EncodeChar_append, ih, List.map_cons]

theorem strict_map_scalar (index : Nat) (text : List Char) :
    strict index (text.map .scalar) = .ok text := by
  induction text generalizing index with
  | nil => rfl
  | cons character rest ih =>
      rw [List.map_cons, strict, ih]
      rfl

/-- Every text is read back from its octets. -/
theorem decode_encode (text : List Char) : decode (encode text) = .ok text := by
  rw [decode, pieces_encode, strict_map_scalar]

/-- The octets of a text in memory are those that it is encoded to. -/
theorem toList_toUTF8 (text : List Char) :
    (String.ofList text).toUTF8.data.toList = encode text := by
  rw [String.toUTF8, String.toByteArray_ofList, List.utf8Encode, List.data_toByteArray, encode]

theorem length_encode (text : List Char) :
    (encode text).length = (String.ofList text).utf8ByteSize := by
  rw [← toList_toUTF8, Array.length_toList]
  rfl

/-! ## Zeros -/

private theorem zero_ne_ofNat {number : Nat} (positive : 0 < number) (small : number < 256) :
    0 ≠ UInt8.ofNat number := by
  intro zero
  have numberEq := toNat_ofNat_of_lt small
  rw [← zero] at numberEq
  exact absurd numberEq (Nat.ne_of_lt positive)

private theorem zero_ne_continuation (number : Nat) : 0 ≠ UInt8.ofNat (number % 64 + 128) :=
  zero_ne_ofNat (Nat.lt_add_left _ (by decide)) (by omega)

/-- Only the zero character has a zero among its octets. -/
theorem zero_notMem_utf8EncodeChar {character : Char} (nonzero : character ≠ '\x00') :
    0 ∉ String.utf8EncodeChar character := by
  have positive : 0 < character.val.toNat := by
    rw [Nat.pos_iff_ne_zero]
    intro zero
    exact nonzero (Char.ext (UInt32.toNat.inj zero))
  rw [String.utf8EncodeChar]
  generalize character.val.toNat = number at positive
  split
  · rename_i one
    simpa using zero_ne_ofNat positive (Nat.lt_of_le_of_lt one (by decide))
  · split
    · simp only [List.mem_cons, List.not_mem_nil, or_false, not_or]
      exact ⟨zero_ne_ofNat (by omega) (by omega), zero_ne_continuation _⟩
    · split
      · simp only [List.mem_cons, List.not_mem_nil, or_false, not_or]
        exact ⟨zero_ne_ofNat (by omega) (by omega), zero_ne_continuation _,
          zero_ne_continuation _⟩
      · simp only [List.mem_cons, List.not_mem_nil, or_false, not_or]
        exact ⟨zero_ne_ofNat (by omega) (by omega), zero_ne_continuation _,
          zero_ne_continuation _, zero_ne_continuation _⟩

theorem zero_mem_encode_iff {text : List Char} : 0 ∈ encode text ↔ '\x00' ∈ text := by
  constructor
  · intro member
    obtain ⟨character, characterMem, zeroMem⟩ := List.mem_flatMap.mp member
    by_cases zero : character = '\x00'
    · rwa [zero] at characterMem
    · exact absurd zeroMem (zero_notMem_utf8EncodeChar zero)
  · intro member
    exact List.mem_flatMap.mpr ⟨'\x00', member, List.mem_singleton_self 0⟩

theorem zero_notMem_encode {text : List Char} (nonzero : '\x00' ∉ text) : 0 ∉ encode text :=
  mt zero_mem_encode_iff.mp nonzero

end Utf8

/-! ## Native strings -/

namespace InteropString

theorem zero_notMem_shielded (text : String) : '\x00' ∉ shielded text := by
  intro member
  obtain ⟨character, _, shieldedEq⟩ := List.mem_map.mp member
  split at shieldedEq
  · exact absurd shieldedEq (by decide)
  · contradiction

/-- A text without a zero is its own shield. -/
theorem shielded_eq_toList {text : String} (nonzero : '\x00' ∉ text.toList) :
    shielded text = text.toList := by
  rw [shielded, List.map_congr_left (g := id), List.map_id]
  intro character characterMem
  refine if_neg ?_
  rintro rfl
  exact nonzero characterMem

theorem ofOctets?_eq_none_iff {octets : List UInt8} : ofOctets? octets = none ↔ 0 ∈ octets := by
  simp [ofOctets?]

theorem ofOctets?_of_notMem {octets : List UInt8} (nonzero : 0 ∉ octets) :
    ofOctets? octets = some (ofOctets octets) :=
  if_neg nonzero

/-- A text without a zero goes out as it is, which is shielded; every other text goes out
shielded at the second attempt. -/
theorem ofText_eq (text : String) : ofText text = ofOctets (Utf8.encode (shielded text)) := by
  by_cases zero : '\x00' ∈ text.toList
  · have refused : ofOctets? (Utf8.encode text.toList) = none :=
      ofOctets?_eq_none_iff.mpr (Utf8.zero_mem_encode_iff.mpr zero)
    have held := ofOctets?_of_notMem (Utf8.zero_notMem_encode (zero_notMem_shielded text))
    simp only [ofText, refused, held, Option.getD_some]
  · have held := ofOctets?_of_notMem (Utf8.zero_notMem_encode zero)
    simp only [ofText, held, shielded_eq_toList zero]

theorem content?_ofText (text : String) :
    (ofText text).content? = some (Utf8.encode (shielded text)) := by
  have noZero := Utf8.zero_notMem_encode (zero_notMem_shielded text)
  rw [ofText_eq, ofOctets, content?, Option.map_some, List.takeWhile_append_of_pos]
  · rw [List.takeWhile_cons_of_neg (by decide), List.append_nil]
  · intro octet octetMem
    refine decide_eq_true ?_
    rintro rfl
    exact noZero octetMem

/-- A native string of a text is read as that text, shielded. -/
theorem text_ofText (text : String) :
    (ofText text).text = .ok (String.ofList (shielded text)) := by
  rw [InteropString.text, content?_ofText]
  simp only [Utf8.decode_encode]

/-- A native string of a text without a zero is read as that text. -/
theorem text_ofText_of_notMem {text : String} (nonzero : '\x00' ∉ text.toList) :
    (ofText text).text = .ok text := by
  rw [text_ofText, shielded_eq_toList nonzero, String.ofList_toList]

/-! ## Round trips -/

/-- Every text passes through a native string as itself, each zero in it replaced, and passes
unchanged from then on.  What is replaced can be held, so no text goes out as none.  The first
zero in memory is the last octet, right after the UTF-8 of what was passed. -/
theorem strings_carry_text (text : String) :
    ∃ passed octets,
      (ofText text).text = .ok passed ∧
      passed.toList = text.toList.map (fun character =>
        if character = '\x00' then '\uFFFD' else character) ∧
      (passed = text ↔ '\x00' ∉ text.toList) ∧
      passed.length = text.length ∧
      (ofText passed).text = .ok passed ∧
      (ofOctets? (Utf8.encode text.toList) = none ↔ '\x00' ∈ text.toList) ∧
      ofOctets? (Utf8.encode (shielded text)) = some (ofText text) ∧
      (ofText text).buffer = some octets ∧
      octets = passed.toUTF8.data.toList ++ [0] ∧
      octets.idxOf 0 = passed.utf8ByteSize ∧
      octets.length = passed.utf8ByteSize + 1 := by
  have noZero := zero_notMem_shielded text
  have noZeroOctet := Utf8.zero_notMem_encode noZero
  have again : '\x00' ∉ (String.ofList (shielded text)).toList := by
    rwa [String.toList_ofList]
  refine ⟨String.ofList (shielded text), Utf8.encode (shielded text) ++ [0], text_ofText text,
    String.toList_ofList, ⟨?_, ?_⟩, ?_, text_ofText_of_notMem again,
    ofOctets?_eq_none_iff.trans Utf8.zero_mem_encode_iff, ?_, ?_, ?_, ?_, ?_⟩
  · intro same
    rwa [same] at again
  · intro nonzero
    rw [shielded_eq_toList nonzero, String.ofList_toList]
  · rw [String.length_ofList, shielded, List.length_map, String.length_toList]
  · rw [ofOctets?_of_notMem noZeroOctet, ofText_eq]
  · rw [ofText_eq, ofOctets]
  · rw [Utf8.toList_toUTF8]
  · rw [List.idxOf_append_of_notMem noZeroOctet, List.idxOf_cons_self, Nat.add_zero,
      Utf8.length_encode]
  · rw [List.length_append, List.length_singleton, Utf8.length_encode]

end InteropString

end ObjectBridge
