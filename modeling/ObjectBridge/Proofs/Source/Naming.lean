import ObjectBridge.Proofs.Text.Uppercase
import ObjectBridge.Source.Naming

/-!
# Words of exported names

A name is made of the words between its underscores, and its Pascal-case form puts the
capitalized words together.  So the form of two names that an underscore joins is the form of
one after that of the other, and underscores count for nothing else.  There is none left in
the form, which is therefore a single word; and as the upper case of a character begins with a
letter that is its own upper case, the form of the form is the form itself.
-/

namespace ObjectBridge.Source

/-- A number of underscores. -/
def underscores (count : Nat) : String :=
  String.ofList (List.replicate count '_')

/-! ## Words -/

section Words

variable {name word : List Char}

theorem splitWords_eq_splitOn (name : List Char) : splitWords name = name.splitOn '_' := by
  induction name with
  | nil => rfl
  | cons first rest ih =>
      rw [splitWords, List.splitOn_cons_eq_if_modifyHead, ih]
      by_cases separator : first = '_'
      · simp [separator]
      · simp only [separator, beq_iff_eq, if_false]
        cases words : rest.splitOn '_' with
        | nil => exact absurd words (List.splitOn_ne_nil _ _)
        | cons word others => rfl

theorem splitWords_append (first second : List Char) :
    splitWords (first ++ '_' :: second) = splitWords first ++ splitWords second := by
  rw [splitWords_eq_splitOn, List.splitOn_append_cons_self, splitWords_eq_splitOn,
    splitWords_eq_splitOn]

theorem splitWords_of_notMem (whole : '_' ∉ name) : splitWords name = [name] := by
  rw [splitWords_eq_splitOn, List.splitOn_eq_singleton whole]

theorem splitWords_cons {first : Char} (letter : first ≠ '_') (rest : List Char) :
    ∃ word words, splitWords rest = word :: words ∧
      splitWords (first :: rest) = (first :: word) :: words := by
  cases wordsEq : splitWords rest with
  | nil =>
      rw [splitWords_eq_splitOn] at wordsEq
      exact absurd wordsEq (List.splitOn_ne_nil _ _)
  | cons word words => exact ⟨word, words, rfl, by rw [splitWords, if_neg letter, wordsEq]⟩

theorem notMem_of_mem_splitWords (member : word ∈ splitWords name) : '_' ∉ word := by
  induction name generalizing word with
  | nil =>
      rw [splitWords, List.mem_singleton] at member
      rw [member]
      exact List.not_mem_nil
  | cons first rest ih =>
      by_cases separator : first = '_'
      · rw [splitWords, if_pos separator] at member
        rcases List.mem_cons.mp member with rfl | later
        · exact List.not_mem_nil
        · exact ih later
      · obtain ⟨head, words, wordsEq, splitEq⟩ := splitWords_cons separator rest
        rw [wordsEq] at ih
        rw [splitEq] at member
        rcases List.mem_cons.mp member with rfl | later
        · rw [List.mem_cons, not_or]
          exact ⟨Ne.symm separator, ih List.mem_cons_self⟩
        · exact ih (List.mem_cons_of_mem _ later)

/-- All words of a name are empty if it has nothing but underscores. -/
theorem splitWords_empty_iff :
    (∀ word ∈ splitWords name, word = []) ↔ ∀ character ∈ name, character = '_' := by
  induction name with
  | nil => simp [splitWords]
  | cons first rest ih =>
      by_cases separator : first = '_'
      · simp [splitWords, separator, ih]
      · obtain ⟨word, words, _, splitEq⟩ := splitWords_cons separator rest
        simp [splitEq, separator]

end Words

/-! ## Capitalized words -/

theorem capitalize_eq_nil_iff {word : List Char} : capitalize word = [] ↔ word = [] := by
  cases word with
  | nil => rfl
  | cons first rest => simp [capitalize, Text.upper_ne_nil]

/-- A capitalized word stays as it is, whatever follows it. -/
theorem capitalize_append {word : List Char} (nonempty : word ≠ []) (rest : List Char) :
    capitalize (capitalize word ++ rest) = capitalize word ++ rest := by
  cases word with
  | nil => contradiction
  | cons first others =>
      rw [capitalize]
      cases upperEq : Text.upper first with
      | nil => exact absurd upperEq (Text.upper_ne_nil first)
      | cons capital more =>
          -- The first letter is a capital already, and the others are not looked at.
          have member : capital ∈ Text.upper first := upperEq ▸ List.mem_cons_self
          rw [List.cons_append, List.cons_append, capitalize, Text.upper_of_mem_upper member,
            List.singleton_append]

theorem capitalize_flatMap (words : List (List Char)) :
    capitalize (words.flatMap capitalize) = words.flatMap capitalize := by
  induction words with
  | nil => rfl
  | cons word rest ih =>
      rw [List.flatMap_cons]
      by_cases empty : word = []
      · rw [empty]
        exact ih
      · exact capitalize_append empty _

theorem underscore_notMem_capitalCodes : '_'.toNat ∉ Text.capitalCodes := by decide +kernel

theorem notMem_capitalize {word : List Char} (whole : '_' ∉ word) : '_' ∉ capitalize word := by
  cases word with
  | nil => exact whole
  | cons first rest =>
      rw [List.mem_cons, not_or] at whole
      rw [capitalize, List.mem_append, not_or]
      refine ⟨fun member => ?_, whole.2⟩
      rcases Text.mem_upper_cases member with capitalMem | ⟨same, _⟩
      · exact underscore_notMem_capitalCodes capitalMem
      · exact whole.1 same

/-! ## Names -/

theorem toList_pascalCase (name : String) :
    (pascalCase name).toList = (splitWords name.toList).flatMap capitalize :=
  String.toList_ofList

theorem pascalCase_append (first second : String) :
    pascalCase (first ++ "_" ++ second) = pascalCase first ++ pascalCase second := by
  have listEq : (first ++ "_" ++ second).toList = first.toList ++ '_' :: second.toList := by
    simp
  apply String.toList_inj.mp
  rw [String.toList_append, toList_pascalCase, toList_pascalCase, toList_pascalCase, listEq,
    splitWords_append, List.flatMap_append]

theorem pascalCase_eq_empty_iff {name : String} :
    pascalCase name = "" ↔ ∀ character ∈ name.toList, character = '_' := by
  rw [pascalCase, String.ofList_eq_empty_iff, List.flatMap_eq_nil_iff, ← splitWords_empty_iff]
  exact forall₂_congr fun word _ => capitalize_eq_nil_iff

theorem notMem_pascalCase (name : String) : '_' ∉ (pascalCase name).toList := by
  rw [toList_pascalCase, List.mem_flatMap]
  rintro ⟨word, found, member⟩
  exact notMem_capitalize (notMem_of_mem_splitWords found) member

/-- A name without underscores is a single word. -/
theorem pascalCase_of_notMem {name : String} (whole : '_' ∉ name.toList) :
    pascalCase name = String.ofList (capitalize name.toList) := by
  rw [pascalCase, splitWords_of_notMem whole, List.flatMap_singleton]

theorem pascalCase_pascalCase (name : String) : pascalCase (pascalCase name) = pascalCase name := by
  rw [pascalCase_of_notMem (notMem_pascalCase name), toList_pascalCase, capitalize_flatMap]
  rfl

/-! ## Underscores -/

theorem underscores_succ (count : Nat) : underscores (count + 1) = "_" ++ underscores count := by
  apply String.toList_inj.mp
  simp [underscores, List.replicate_succ]

theorem pascalCase_empty : pascalCase "" = "" :=
  pascalCase_eq_empty_iff.mpr (by simp)

theorem pascalCase_underscores_append (count : Nat) (name : String) :
    pascalCase (underscores count ++ name) = pascalCase name := by
  induction count with
  | zero => rw [underscores, List.replicate_zero, String.ofList_nil, String.empty_append]
  | succ count ih =>
      calc
        pascalCase (underscores (count + 1) ++ name) =
            pascalCase ("" ++ "_" ++ (underscores count ++ name)) := by
          rw [underscores_succ, String.empty_append, String.append_assoc]
        _ = pascalCase "" ++ pascalCase (underscores count ++ name) := pascalCase_append _ _
        _ = pascalCase name := by rw [pascalCase_empty, String.empty_append, ih]

/-- Any number of underscores joins two names in the same way. -/
theorem pascalCase_append_underscores_append (first second : String) (count : Nat) :
    pascalCase (first ++ underscores (count + 1) ++ second) =
      pascalCase first ++ pascalCase second := by
  calc
    pascalCase (first ++ underscores (count + 1) ++ second) =
        pascalCase (first ++ "_" ++ (underscores count ++ second)) := by
      rw [underscores_succ, String.append_assoc, String.append_assoc, String.append_assoc]
    _ = pascalCase first ++ pascalCase (underscores count ++ second) := pascalCase_append _ _
    _ = pascalCase first ++ pascalCase second := by rw [pascalCase_underscores_append]

theorem pascalCase_append_underscores (name : String) (count : Nat) :
    pascalCase (name ++ underscores count) = pascalCase name := by
  cases count with
  | zero => rw [underscores, List.replicate_zero, String.ofList_nil, String.append_empty]
  | succ count =>
      have joined := pascalCase_append_underscores_append name "" count
      rwa [String.append_empty, pascalCase_empty, String.append_empty] at joined

/-- The Pascal-case form of a name is put together from the forms of its words, and it is a
single word that is its own form.  Between words, before the first and after the last one any
number of underscores may stand, and a name of underscores alone has an empty form.  The form
of a word has the whole upper case of the first character, which may be several, before the
other characters. -/
theorem pascalCase_joins_words :
    (∀ first second : String,
      pascalCase (first ++ "_" ++ second) = pascalCase first ++ pascalCase second) ∧
    (∀ (first second : String) (count : Nat),
      pascalCase (first ++ underscores (count + 1) ++ second) =
        pascalCase first ++ pascalCase second) ∧
    (∀ (name : String) (count : Nat),
      pascalCase (underscores count ++ name) = pascalCase name ∧
      pascalCase (name ++ underscores count) = pascalCase name) ∧
    (∀ name : String, pascalCase name = "" ↔ ∀ character ∈ name.toList, character = '_') ∧
    (∀ name : String, '_' ∉ (pascalCase name).toList) ∧
    (∀ name : String, pascalCase (pascalCase name) = pascalCase name) ∧
    ∀ (first : Char) (rest : List Char) (codes : List Nat), '_' ∉ first :: rest →
      Text.Uppercases first.toNat codes →
        pascalCase (String.ofList (first :: rest)) =
          String.ofList (codes.map Char.ofNat ++ rest) := by
  refine ⟨pascalCase_append, pascalCase_append_underscores_append, ?_,
    fun _ => pascalCase_eq_empty_iff, notMem_pascalCase, pascalCase_pascalCase, ?_⟩
  · exact fun name count =>
      ⟨pascalCase_underscores_append count name, pascalCase_append_underscores name count⟩
  · intro first rest codes whole listed
    have listEq : (String.ofList (first :: rest)).toList = first :: rest := String.toList_ofList
    rw [pascalCase_of_notMem (listEq.symm ▸ whole), listEq, capitalize,
      Text.upper_eq_of_uppercases listed]

/-- A word that begins with a letter of two capitals gets both of them. -/
theorem pascalCase_joins_words_ligature :
    Text.Uppercases 'ﬂ'.toNat ['F'.toNat, 'L'.toNat] ∧
      pascalCase (String.ofList ['ﬂ', 'o', 'w']) = "FLow" := by
  have listed : Text.Uppercases 'ﬂ'.toNat ['F'.toNat, 'L'.toNat] := .several (by decide)
  obtain ⟨_, _, _, _, _, _, word⟩ := pascalCase_joins_words
  exact ⟨listed, word 'ﬂ' ['o', 'w'] _ (by decide) listed⟩

end ObjectBridge.Source
