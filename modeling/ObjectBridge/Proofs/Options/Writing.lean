import Mathlib.Data.List.Nodup
import ObjectBridge.Options.Document

/-!
# Written documents

A document that is read gives keys that differ and whole numbers of 64 bits.  Nothing more can
be said of it, since all such entries can be written: quoted keys, numbers in decimal, texts
between quotes.  What is written is read back, entry by entry and in the same order.
-/

namespace ObjectBridge.Document

/-! ## Texts -/

/-- A character as it stands between quotes. -/
def escape (character : Char) : List Char :=
  if character = '"' then ['\\', '"']
  else if character = '\\' then ['\\', '\\']
  else if isControl character then
    ['\\', 'u', '0', '0', (character.toNat / 16).digitChar, (character.toNat % 16).digitChar]
  else [character]

/-- A text between quotes. -/
def writeText (text : String) : List Char :=
  '"' :: (text.toList.flatMap escape ++ ['"'])

variable {rest : Rest} {bound : Nat} {taken : List Char}

theorem hexValue?_digitChar {digit : Nat} (small : digit < 16) :
    hexValue? digit.digitChar = some digit := by
  revert small digit
  decide

theorem toNat_lt_of_isControl {character : Char} (control : isControl character = true) :
    character.toNat < 128 := by
  simp only [isControl, Bool.or_eq_true, Bool.and_eq_true, decide_eq_true_eq, beq_iff_eq]
    at control
  omega

/-- A control is given by its number. -/
private theorem numbered?_control {character : Char} (control : isControl character = true) :
    numbered? 4 ('0' :: '0' :: (character.toNat / 16).digitChar ::
      (character.toNat % 16).digitChar :: rest) = some (character, rest) := by
  have small := toNat_lt_of_isControl control
  have high : hexValue? (character.toNat / 16).digitChar = some (character.toNat / 16) :=
    hexValue?_digitChar (by omega)
  have low : hexValue? (character.toNat % 16).digitChar = some (character.toNat % 16) :=
    hexValue?_digitChar (by omega)
  have zero : hexValue? '0' = some 0 := rfl
  have codeEq : character.toNat / 16 * 16 + character.toNat % 16 = character.toNat := by omega
  have valid : character.toNat.isValidChar := character.valid
  simp [numbered?, hexDigits?, high, low, zero, codeEq, valid]

theorem basicBody?_escape (character : Char) :
    basicBody? (bound + 1) taken (escape character ++ rest) =
      basicBody? bound (character :: taken) rest := by
  rw [escape]
  split
  · rename_i quote
    rw [quote]
    rfl
  · rename_i notQuote
    split
    · rename_i backslash
      rw [backslash]
      rfl
    · rename_i notBackslash
      split
      · rename_i control
        change (escape? ('u' :: '0' :: '0' :: _ :: _ :: rest) >>= _) = _
        rw [escape?, numbered?_control control]
        rfl
      · rename_i plain
        rw [List.singleton_append, basicBody?]
        · rw [if_neg plain]
        · exact notQuote
        · exact notBackslash

/-- No character begins with a quote once it is written. -/
theorem exists_escape_eq (character : Char) :
    ∃ first others, escape character = first :: others ∧ first ≠ '"' := by
  rw [escape]
  split
  · exact ⟨_, _, rfl, by decide⟩
  · rename_i notQuote
    split
    · exact ⟨_, _, rfl, by decide⟩
    · split
      · exact ⟨_, _, rfl, by decide⟩
      · exact ⟨_, _, rfl, notQuote⟩

theorem length_le_flatMap {α β : Type} (pieces : α → List β) (filled : ∀ part, pieces part ≠ [])
    (parts : List α) : parts.length ≤ (parts.flatMap pieces).length := by
  induction parts with
  | nil => exact Nat.le_refl _
  | cons part others ih =>
      have piecePos := List.length_pos_iff.mpr (filled part)
      rw [List.flatMap_cons, List.length_append, List.length_cons]
      omega

theorem escape_ne_nil (character : Char) : escape character ≠ [] := by
  obtain ⟨first, others, escapeEq, _⟩ := exists_escape_eq character
  rw [escapeEq]
  exact List.cons_ne_nil first others

/-- What stands between quotes is read back. -/
theorem basicBody?_flatMap_escape (characters : List Char) (enough : characters.length < bound) :
    basicBody? bound taken (characters.flatMap escape ++ '"' :: rest) =
      some (taken.reverse ++ characters, rest) := by
  induction characters generalizing bound taken with
  | nil =>
      cases bound with
      | zero => contradiction
      | succ bound => simp [basicBody?]
  | cons character others ih =>
      cases bound with
      | zero => contradiction
      | succ bound =>
          rw [List.flatMap_cons, List.append_assoc, basicBody?_escape,
            ih (Nat.lt_of_succ_lt_succ enough)]
          simp

/-- A written text that ends its line does not begin with three quotes. -/
private theorem not_tripled (text : String) (more : List Char) :
    text.toList.flatMap escape ++ '"' :: '\n' :: rest ≠ '"' :: '"' :: more := by
  cases text.toList with
  | nil => simp
  | cons character others =>
      obtain ⟨first, _, escapeEq, notQuote⟩ := exists_escape_eq character
      simp [escapeEq, notQuote]

theorem text?_writeText (text : String) (rest : Rest) :
    text? (writeText text ++ '\n' :: rest) = some (text.toList, '\n' :: rest) := by
  have writtenEq : writeText text ++ '\n' :: rest =
      '"' :: (text.toList.flatMap escape ++ '"' :: '\n' :: rest) := by
    simp [writeText]
  have enough : text.toList.length <
      (text.toList.flatMap escape ++ '"' :: '\n' :: rest).length + 1 := by
    have lengthLe := length_le_flatMap escape escape_ne_nil text.toList
    rw [List.length_append]
    omega
  rw [writtenEq, text?]
  · exact basicBody?_flatMap_escape text.toList enough
  · exact not_tripled text

/-! ## Numbers -/

/-- A whole number in decimal. -/
def writeNumber : Int → List Char
  | .ofNat value => Nat.toDigits 10 value
  | .negSucc value => '-' :: Nat.toDigits 10 (value + 1)

theorem digitValue?_of_isDigit {character : Char} (isDigit : character.isDigit = true) :
    digitValue? 10 character = some (character.toNat - '0'.toNat) := by
  obtain ⟨low, high⟩ := Char.isDigit_iff_toNat.mp isDigit
  change 48 ≤ _ at low
  change _ ≤ 57 at high
  have small : character.toNat - 48 < 10 := by omega
  simp [digitValue?, hexValue?, low, high, small]

/-- Digits are read up to the end of the line. -/
theorem moreDigits_append {digits : List Char} (value : Nat)
    (isDigits : ∀ character ∈ digits, character.isDigit = true) :
    moreDigits 10 value (digits ++ '\n' :: rest) =
      (Nat.ofDigitChars 10 digits value, '\n' :: rest) := by
  induction digits generalizing value with
  | nil => rfl
  | cons digit others ih =>
      have isDigit := isDigits digit List.mem_cons_self
      have notMark : digit ≠ '_' := by
        rintro rfl
        contradiction
      rw [List.cons_append, moreDigits]
      · rw [digitValue?_of_isDigit isDigit, Nat.ofDigitChars_cons, Nat.mul_comm 10 value]
        exact ih _ fun character found => isDigits character (List.mem_cons_of_mem _ found)
      · intro _ _ mark _
        exact notMark mark

theorem digitChar_ne_zero {digit : Nat} (positive : 0 < digit) (small : digit < 10) :
    digit.digitChar ≠ '0' := by
  have onlyZero : ∀ digit < 10, digit.digitChar = '0' → digit = 0 := by decide
  intro zero
  exact Nat.ne_of_gt positive (onlyZero digit small zero)

/-- Only zero is written with a leading zero. -/
theorem head?_toDigits_ne_zero {value : Nat} (positive : 0 < value) :
    (Nat.toDigits 10 value).head? ≠ some '0' := by
  induction value using Nat.strongRecOn with
  | _ value ih =>
      rw [Nat.toDigits_eq_if (by decide)]
      split
      · rename_i small
        intro headEq
        exact digitChar_ne_zero positive small (Option.some.inj headEq)
      · rename_i large
        have earlier := ih (value / 10) (by omega) (by omega)
        rw [List.head?_append]
        cases headEq : (Nat.toDigits 10 (value / 10)).head? with
        | none => exact absurd (List.head?_eq_none_iff.mp headEq) Nat.toDigits_ne_nil
        | some digit =>
            rw [headEq] at earlier
            exact earlier

/-- The digits of a number other than zero. -/
theorem exists_toDigits_eq {value : Nat} (positive : 0 < value) :
    ∃ digit others, Nat.toDigits 10 value = digit :: others ∧ digit ≠ '0' ∧
      digit.isDigit = true ∧ ∀ character ∈ others, character.isDigit = true := by
  have notZero := head?_toDigits_ne_zero positive
  have isDigits : ∀ character ∈ Nat.toDigits 10 value, character.isDigit = true :=
    fun _ found => Nat.isDigit_of_mem_toDigits (by decide) (by decide) found
  cases digitsEq : Nat.toDigits 10 value with
  | nil => exact absurd digitsEq Nat.toDigits_ne_nil
  | cons digit others =>
      rw [digitsEq] at notZero isDigits
      exact ⟨digit, others, rfl, fun zero => notZero (congrArg some zero),
        isDigits digit List.mem_cons_self,
        fun character found => isDigits character (List.mem_cons_of_mem _ found)⟩

theorem decimal?_toDigits (value : Nat) (rest : Rest) :
    decimal? (Nat.toDigits 10 value ++ '\n' :: rest) = some (value, '\n' :: rest) := by
  rcases Nat.eq_zero_or_pos value with rfl | positive
  · rfl
  · have valueEq : Nat.ofDigitChars 10 (Nat.toDigits 10 value) 0 = value :=
      Nat.ofDigitChars_ten_toDigits
    obtain ⟨digit, others, digitsEq, notZero, isDigit, areDigits⟩ := exists_toDigits_eq positive
    rw [digitsEq, Nat.ofDigitChars_cons, Nat.mul_zero, Nat.zero_add] at valueEq
    rw [digitsEq, List.cons_append, decimal?]
    · rw [digits?, digitValue?_of_isDigit isDigit, Option.map_some,
        moreDigits_append _ areDigits, valueEq]
    · intro _ same
      exact notZero (List.cons.inj same).1

/-- A number without sign begins with a digit, and zero is not the mark of a base. -/
theorem number?_toDigits (value : Nat) :
    number? (Nat.toDigits 10 value ++ '\n' :: rest) = some ((value : Int), '\n' :: rest) := by
  have read := decimal?_toDigits value rest
  rcases Nat.eq_zero_or_pos value with rfl | positive
  · rfl
  · obtain ⟨digit, others, digitsEq, notZero, isDigit, _⟩ := exists_toDigits_eq positive
    rw [digitsEq, List.cons_append] at read
    have notMinus : digit ≠ '-' := by
      rintro rfl
      contradiction
    have notPlus : digit ≠ '+' := by
      rintro rfl
      contradiction
    rw [digitsEq, List.cons_append, number?, read]
    -- The marks of bases and the signs are tried first, and the first digit is none of them.
    · rfl
    · exact fun _ same => notZero (List.cons.inj same).1
    · exact fun _ same => notZero (List.cons.inj same).1
    · exact fun _ same => notZero (List.cons.inj same).1
    · exact fun _ same => notMinus (List.cons.inj same).1
    · exact fun _ same => notPlus (List.cons.inj same).1

theorem number?_writeNumber (value : Int) (rest : Rest) :
    number? (writeNumber value ++ '\n' :: rest) = some (value, '\n' :: rest) := by
  cases value with
  | ofNat value => exact number?_toDigits value
  | negSucc value =>
      rw [writeNumber, List.cons_append, number?, decimal?_toDigits]
      rfl

/-! ## Settings -/

/-- A setting as it is written. -/
def writeSetting : Setting → List Char
  | .number value => writeNumber value
  | .text value => writeText value
  | .truth true => ['t', 'r', 'u', 'e']
  | .truth false => ['f', 'a', 'l', 's', 'e']

/-- Whether a setting can be written: numbers have 64 bits. -/
def Setting.IsWritable : Setting → Prop
  | .number value => fits value = true
  | .text _ | .truth _ => True

/-- A number begins with a digit or a minus. -/
theorem exists_writeNumber_eq (value : Int) :
    ∃ first others, writeNumber value = first :: others ∧
      (first = '-' ∨ first.isDigit = true) := by
  cases value with
  | ofNat value =>
      have isDigits : ∀ character ∈ Nat.toDigits 10 value, character.isDigit = true :=
        fun _ found => Nat.isDigit_of_mem_toDigits (by decide) (by decide) found
      rw [writeNumber]
      cases digitsEq : Nat.toDigits 10 value with
      | nil => exact absurd digitsEq Nat.toDigits_ne_nil
      | cons digit others =>
          rw [digitsEq] at isDigits
          exact ⟨digit, others, rfl, .inr (isDigits digit List.mem_cons_self)⟩
  | negSucc value => exact ⟨_, _, rfl, .inl rfl⟩

theorem setting?_number {value : Int} (writable : fits value = true) :
    setting? (writeNumber value ++ '\n' :: rest) =
      some (.number value, '\n' :: rest) := by
  have read := number?_writeNumber value rest
  obtain ⟨first, others, writtenEq, firstEq⟩ := exists_writeNumber_eq value
  have different (other : Char) (notMinus : other ≠ '-') (notDigit : other.isDigit = false) :
      first ≠ other := by
    rintro rfl
    rcases firstEq with minus | digit
    · exact notMinus minus
    · exact Bool.eq_false_iff.mp notDigit digit
  have notText : text? (first :: (others ++ '\n' :: rest)) = none := by
    rw [text?]
    · exact fun _ same => different '"' (by decide) rfl (List.cons.inj same).1
    · exact fun _ same => different '\'' (by decide) rfl (List.cons.inj same).1
    · exact fun _ same => different '"' (by decide) rfl (List.cons.inj same).1
    · exact fun _ same => different '\'' (by decide) rfl (List.cons.inj same).1
  rw [writtenEq, List.cons_append] at read ⊢
  rw [setting?, notText, read]
  · simp [writable]
  · exact fun _ same => different 't' (by decide) rfl (List.cons.inj same).1
  · exact fun _ same => different 'f' (by decide) rfl (List.cons.inj same).1

theorem setting?_text (text : String) :
    setting? (writeText text ++ '\n' :: rest) = some (.text text, '\n' :: rest) := by
  have read := text?_writeText text rest
  rw [writeText, List.cons_append] at read ⊢
  rw [setting?, read]
  · simp
  · simp
  · simp

theorem setting?_writeSetting {setting : Setting} (writable : setting.IsWritable) :
    setting? (writeSetting setting ++ '\n' :: rest) = some (setting, '\n' :: rest) := by
  cases setting with
  | number value => exact setting?_number writable
  | text value => exact setting?_text value
  | truth value => cases value <;> rfl

/-- No setting begins with a blank. -/
theorem skipGaps_writeSetting (setting : Setting) :
    skipGaps (writeSetting setting ++ rest) = writeSetting setting ++ rest := by
  cases setting with
  | number value =>
      obtain ⟨first, others, writtenEq, firstEq⟩ := exists_writeNumber_eq value
      have notGap : isGap first = false := by
        rcases firstEq with rfl | isDigit
        · rfl
        · rw [isGap, Bool.or_eq_false_iff]
          constructor
          · rw [beq_eq_false_iff_ne]
            rintro rfl
            contradiction
          · rw [beq_eq_false_iff_ne]
            rintro rfl
            contradiction
      rw [writeSetting, writtenEq, skipGaps, List.cons_append, List.dropWhile_cons_of_neg]
      rw [notGap]
      exact Bool.false_ne_true
  | text value => rfl
  | truth value => cases value <;> rfl

/-! ## Lines -/

/-- A key with its setting, on a line of its own. -/
def writeEntry (entry : String × Setting) : List Char :=
  writeText entry.1 ++ '=' :: (writeSetting entry.2 ++ ['\n'])

/-- A document with entries. -/
def write (entries : List (String × Setting)) : String :=
  String.ofList (entries.flatMap writeEntry)

theorem entry?_writeEntry {entry : String × Setting} (writable : entry.2.IsWritable)
    (rest : Rest) :
    entry? (writeEntry entry ++ rest) = some (entry, '\n' :: rest) := by
  have enough : entry.1.toList.length <
      (entry.1.toList.flatMap escape ++
        '"' :: '=' :: (writeSetting entry.2 ++ '\n' :: rest)).length + 1 := by
    have lengthLe := length_le_flatMap escape escape_ne_nil entry.1.toList
    rw [List.length_append]
    omega
  have keyEq : key? ('"' :: (entry.1.toList.flatMap escape ++
      '"' :: '=' :: (writeSetting entry.2 ++ '\n' :: rest))) =
        some (entry.1.toList, '=' :: (writeSetting entry.2 ++ '\n' :: rest)) :=
    basicBody?_flatMap_escape entry.1.toList enough
  have writtenEq : writeEntry entry ++ rest = '"' :: (entry.1.toList.flatMap escape ++
      '"' :: '=' :: (writeSetting entry.2 ++ '\n' :: rest)) := by
    simp [writeEntry, writeText]
  have gapEq : skipGaps ('=' :: (writeSetting entry.2 ++ '\n' :: rest)) =
      '=' :: (writeSetting entry.2 ++ '\n' :: rest) := rfl
  rw [writtenEq, entry?, keyEq]
  simp [gapEq, skipGaps_writeSetting, setting?_writeSetting writable]

/-- A line with an entry is read as that entry. -/
theorem lines?_writeEntry {entry : String × Setting} (writable : entry.2.IsWritable)
    {earlier : List (String × Setting)} (fresh : earlier.lookup entry.1 = none) :
    lines? (bound + 1) earlier (writeEntry entry ++ rest) =
      lines? bound (earlier ++ [entry]) rest := by
  have read := entry?_writeEntry writable rest
  obtain ⟨more, writtenEq⟩ : ∃ more, writeEntry entry ++ rest = '"' :: more := ⟨_, rfl⟩
  have gapEq : skipGaps ('"' :: more) = '"' :: more := rfl
  have notEnded : finishLine? ('"' :: more) = none := rfl
  have ended : finishLine? ('\n' :: rest) = some rest := rfl
  rw [writtenEq] at read ⊢
  simp [lines?, gapEq, notEnded, read, ended, fresh]

theorem lines?_flatMap_writeEntry {entries earlier : List (String × Setting)}
    (distinct : ((earlier ++ entries).map Prod.fst).Nodup)
    (writable : ∀ entry ∈ entries, entry.2.IsWritable) (enough : entries.length < bound) :
    lines? bound earlier (entries.flatMap writeEntry) = some (earlier ++ entries) := by
  induction entries generalizing bound earlier with
  | nil =>
      cases bound with
      | zero => contradiction
      | succ bound => simp [lines?, skipGaps]
  | cons entry others ih =>
      cases bound with
      | zero => contradiction
      | succ bound =>
          have fresh : earlier.lookup entry.1 = none := by
            rw [List.lookup_eq_none_iff]
            intro other otherMem
            rw [List.map_append, List.nodup_append] at distinct
            exact bne_iff_ne.mpr (distinct.2.2 _ (List.mem_map_of_mem otherMem) _
              List.mem_cons_self).symm
          rw [List.flatMap_cons, lines?_writeEntry (writable entry List.mem_cons_self) fresh, ih]
          · rw [List.append_assoc, List.singleton_append]
          · rwa [List.append_assoc, List.singleton_append]
          · exact fun other otherMem => writable other (List.mem_cons_of_mem _ otherMem)
          · exact Nat.lt_of_succ_lt_succ enough

/-- What is written is read back. -/
theorem read?_write {entries : List (String × Setting)}
    (distinct : (entries.map Prod.fst).Nodup) (writable : ∀ entry ∈ entries, entry.2.IsWritable) :
    read? (write entries) = some entries := by
  have filled : ∀ entry, writeEntry entry ≠ [] := fun _ => List.cons_ne_nil _ _
  have unmarked : (entries.flatMap writeEntry).head? ≠ some '\uFEFF' := by
    cases entries with
    | nil => simp
    | cons entry others =>
        obtain ⟨more, writtenEq⟩ : ∃ more, writeEntry entry = '"' :: more := ⟨_, rfl⟩
        simp [writtenEq]
  rw [read?, write, String.toList_ofList, if_neg unmarked]
  exact lines?_flatMap_writeEntry distinct writable
    (Nat.lt_succ_of_le (length_le_flatMap writeEntry filled entries))

/-! ## What is read -/

/-- Numbers that are read have 64 bits. -/
theorem isWritable_of_setting? {text : Rest} {setting : Setting}
    (read : setting? text = some (setting, rest)) : setting.IsWritable := by
  rw [setting?.eq_def] at read
  split at read
  · cases read
    trivial
  · cases read
    trivial
  · split at read
    · cases read
      trivial
    · obtain ⟨⟨value, after⟩, _, read⟩ := Option.bind_eq_some_iff.mp read
      dsimp only at read
      split at read
      · rename_i fitting
        cases read
        exact fitting
      · contradiction

theorem entry_isWritable {text : Rest} {entry : String × Setting}
    (read : entry? text = some (entry, rest)) : entry.2.IsWritable := by
  obtain ⟨⟨key, afterKey⟩, _, read⟩ := Option.bind_eq_some_iff.mp read
  dsimp only at read
  split at read
  · obtain ⟨⟨setting, afterSetting⟩, settingEq, read⟩ := Option.bind_eq_some_iff.mp read
    cases read
    exact isWritable_of_setting? settingEq
  · contradiction

/-- Entries as a document may have them: the keys differ, and numbers have 64 bits. -/
structure Tabular (entries : List (String × Setting)) : Prop where
  distinct : (entries.map Prod.fst).Nodup
  writable : ∀ entry ∈ entries, entry.2.IsWritable

theorem tabular_nil : Tabular [] where
  distinct := List.nodup_nil
  writable := by simp

theorem Tabular.concat {entries : List (String × Setting)} (tabular : Tabular entries)
    {entry : String × Setting} (writable : entry.2.IsWritable)
    (fresh : entries.lookup entry.1 = none) : Tabular (entries ++ [entry]) := by
  constructor
  · rw [List.map_append, List.nodup_append]
    refine ⟨tabular.distinct, List.nodup_singleton _, ?_⟩
    intro key keyMem other otherMem
    obtain ⟨earlier, earlierMem, rfl⟩ := List.mem_map.mp keyMem
    rw [List.mem_singleton.mp otherMem]
    exact (bne_iff_ne.mp (List.lookup_eq_none_iff.mp fresh earlier earlierMem)).symm
  · intro other otherMem
    rcases List.mem_append.mp otherMem with earlier | last
    · exact tabular.writable other earlier
    · rw [List.mem_singleton.mp last]
      exact writable

theorem tabular_of_lines? {text : Rest} {entries earlier : List (String × Setting)}
    (tabular : Tabular earlier) (read : lines? bound earlier text = some entries) :
    Tabular entries := by
  induction bound generalizing earlier text with
  | zero => contradiction
  | succ bound ih =>
      rw [lines?.eq_def] at read
      dsimp only at read
      split at read
      · cases read
        exact tabular
      · split at read
        · exact ih tabular read
        · obtain ⟨⟨⟨key, setting⟩, afterEntry⟩, entryEq, read⟩ := Option.bind_eq_some_iff.mp read
          obtain ⟨afterLine, _, read⟩ := Option.bind_eq_some_iff.mp read
          dsimp only at read
          split at read
          · contradiction
          · rename_i fresh
            exact ih (tabular.concat (entry_isWritable entryEq)
              (Option.not_isSome_iff_eq_none.mp fresh)) read

/-- The entries of documents are all those whose keys differ and whose numbers have 64 bits. -/
theorem exists_read?_iff {entries : List (String × Setting)} :
    (∃ document, read? document = some entries) ↔ Tabular entries := by
  constructor
  · rintro ⟨document, read⟩
    exact tabular_of_lines? tabular_nil read
  · intro tabular
    exact ⟨write entries, read?_write tabular.distinct tabular.writable⟩

end ObjectBridge.Document
