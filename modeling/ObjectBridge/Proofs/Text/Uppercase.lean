import Mathlib.Data.List.Basic
import ObjectBridge.Proofs.Text.Pieces
import ObjectBridge.Text.Uppercase

/-!
# Upper case by its tables

The upper case of a character is what the tables list for it, whichever entry is found first:
each table has at most one entry for a character, and a character with several capitals gets
all of them.  No capital has an entry of its own, so upper case is its own upper case.

That no capital has an entry is decided on sets of code points, and such a set is kept as the
bits of one number: comparing the entries pair by pair would take the kernel too long.
-/

namespace ObjectBridge.Text

/-! ## Sets of code points -/

/-- The number whose bits are at the given places. -/
def bitSet (codes : List Nat) : Nat :=
  codes.foldr (fun code set => set ||| 1 <<< code) 0

theorem testBit_bitSet (codes : List Nat) (code : Nat) :
    (bitSet codes).testBit code = decide (code ∈ codes) := by
  induction codes with
  | nil => simp [bitSet]
  | cons first rest ih =>
      have restEq : (bitSet (first :: rest)).testBit code =
          ((bitSet rest).testBit code || (1 <<< first).testBit code) :=
        Nat.testBit_or ..
      rw [restEq, ih, Nat.one_shiftLeft, Nat.testBit_two_pow, Bool.or_comm]
      simp [eq_comm]

theorem disjoint_of_bitSet {first second : List Nat} (apart : bitSet first &&& bitSet second = 0) :
    first.Disjoint second := by
  intro code inFirst inSecond
  have bit : (bitSet first &&& bitSet second).testBit code = true := by
    rw [Nat.testBit_and, testBit_bitSet, testBit_bitSet, decide_eq_true inFirst,
      decide_eq_true inSecond, Bool.and_self]
  rw [apart, Nat.zero_testBit] at bit
  contradiction

namespace CaseRun

/-- The code points of a run. -/
def codes (run : CaseRun) : List Nat :=
  (List.range ((run.last - run.first) / run.step + 1)).map fun place =>
    run.first + run.step * place

/-- The capitals that a run leads to. -/
def capitals (run : CaseRun) : List Nat :=
  run.codes.map fun code : Nat => (code + run.distance).toNat

theorem contains_eq_true_iff {run : CaseRun} {code : Nat} :
    run.contains code = true ↔
      (run.first ≤ code ∧ code ≤ run.last) ∧ (code - run.first) % run.step = 0 := by
  simp [contains]

theorem mem_codes {run : CaseRun} {code : Nat} (contained : run.contains code = true) :
    code ∈ run.codes := by
  obtain ⟨⟨first_le, le_last⟩, whole⟩ := contains_eq_true_iff.mp contained
  have quotient := Nat.div_add_mod (code - run.first) run.step
  have bound : (code - run.first) / run.step ≤ (run.last - run.first) / run.step :=
    Nat.div_le_div_right (Nat.sub_le_sub_right le_last _)
  refine List.mem_map.mpr
    ⟨(code - run.first) / run.step, List.mem_range.mpr (Nat.lt_succ_of_le bound), ?_⟩
  omega

end CaseRun

/-- The code points that have an entry in the tables. -/
def casedCodes : List Nat :=
  caseExpansions.map (·.1) ++ caseRuns.flatMap CaseRun.codes

/-- The capitals that the tables lead to. -/
def capitalCodes : List Nat :=
  caseExpansions.flatMap (·.2) ++ caseRuns.flatMap CaseRun.capitals

/-- No capital has an entry of its own. -/
theorem disjoint_capitalCodes : casedCodes.Disjoint capitalCodes :=
  disjoint_of_bitSet (by decide +kernel)

theorem isValidChar_of_mem_capitalCodes {code : Nat} (member : code ∈ capitalCodes) :
    code.isValidChar := by
  have valid : ∀ capital ∈ capitalCodes, capital.isValidChar := by decide +kernel
  exact valid code member

/-! ## What the tables list -/

/-- The upper case of a code point, as the tables list it: several letters for some, one for
most letters, and every other code point for itself. -/
inductive Uppercases (code : Nat) : List Nat → Prop where
  | several {codes : List Nat} (listed : (code, codes) ∈ caseExpansions) : Uppercases code codes
  | one {run : CaseRun} (unlisted : ∀ entry ∈ caseExpansions, entry.1 ≠ code)
      (listed : run ∈ caseRuns) (contained : run.contains code = true) :
      Uppercases code [(code + run.distance).toNat]
  | itself (unlisted : ∀ entry ∈ caseExpansions, entry.1 ≠ code)
      (outside : ∀ run ∈ caseRuns, run.contains code = false) : Uppercases code [code]

/-- A run ends before another one begins. -/
def CaseRun.Precedes (run later : CaseRun) : Prop :=
  run.last < later.first ∧ later.first ≤ later.last

instance : DecidableRel CaseRun.Precedes := fun _ _ => instDecidableAnd

instance : Trans CaseRun.Precedes CaseRun.Precedes CaseRun.Precedes where
  trans first second :=
    ⟨Nat.lt_trans (Nat.lt_of_lt_of_le first.1 first.2) second.1, second.2⟩

theorem pairwise_caseRuns : caseRuns.Pairwise CaseRun.Precedes :=
  List.IsChain.pairwise (by decide +kernel)

variable {code capital : Nat} {codes : List Nat} {run : CaseRun}

theorem lookup_caseExpansions (listed : (code, codes) ∈ caseExpansions) :
    caseExpansions.lookup code = some codes := by
  have found : ∀ entry ∈ caseExpansions, caseExpansions.lookup entry.1 = some entry.2 := by
    decide +kernel
  exact found _ listed

theorem lookup_caseExpansions_eq_none_iff :
    caseExpansions.lookup code = none ↔ ∀ entry ∈ caseExpansions, entry.1 ≠ code := by
  rw [List.lookup_eq_none_iff]
  exact forall₂_congr fun entry _ => bne_iff_ne.trans ne_comm

/-- A code point is in one run at most, as the runs do not overlap. -/
theorem find?_caseRuns (listed : run ∈ caseRuns) (contained : run.contains code = true) :
    caseRuns.find? (·.contains code) = some run := by
  obtain ⟨before, after, runsEq⟩ := List.append_of_mem listed
  have ordered := pairwise_caseRuns
  rw [runsEq, List.pairwise_append] at ordered
  refine List.find?_eq_some_iff_append.mpr ⟨contained, before, after, runsEq, ?_⟩
  intro earlier found
  have ends := (ordered.2.2 earlier found run List.mem_cons_self).1
  have begins := (CaseRun.contains_eq_true_iff.mp contained).1.1
  have outside : ¬earlier.contains code = true := by
    intro both
    have within := (CaseRun.contains_eq_true_iff.mp both).1.2
    omega
  simpa using outside

/-- What is looked up is listed. -/
theorem uppercases_upperCodes (code : Nat) : Uppercases code (upperCodes code) := by
  rw [upperCodes]
  cases lookupEq : caseExpansions.lookup code with
  | some codes =>
      obtain ⟨before, after, entriesEq, _⟩ := List.lookup_eq_some_iff.mp lookupEq
      exact .several (entriesEq ▸ List.mem_append_right before List.mem_cons_self)
  | none =>
      have unlisted := lookup_caseExpansions_eq_none_iff.mp lookupEq
      cases findEq : caseRuns.find? (·.contains code) with
      | some run =>
          exact .one unlisted (List.mem_of_find?_eq_some findEq)
            (List.find?_some (p := fun run : CaseRun => run.contains code) findEq)
      | none =>
          refine .itself unlisted ?_
          simpa using List.find?_eq_none.mp findEq

/-- The tables list one upper case for a code point, which is the one that is looked up. -/
theorem uppercases_iff : Uppercases code codes ↔ upperCodes code = codes := by
  constructor
  · intro listed
    rw [upperCodes]
    cases listed with
    | several listed => rw [lookup_caseExpansions listed]
    | one unlisted listed contained =>
        rw [lookup_caseExpansions_eq_none_iff.mpr unlisted, find?_caseRuns listed contained]
    | itself unlisted outside =>
        have findEq : caseRuns.find? (·.contains code) = none :=
          List.find?_eq_none.mpr fun run listed => by simp [outside run listed]
        rw [lookup_caseExpansions_eq_none_iff.mpr unlisted, findEq]
  · rintro rfl
    exact uppercases_upperCodes code

/-! ## Capitals -/

/-- A code point has an entry, which leads to capitals, or is its own upper case. -/
theorem upperCodes_cases (code : Nat) :
    (code ∈ casedCodes ∧ ∀ capital ∈ upperCodes code, capital ∈ capitalCodes) ∨
      upperCodes code = [code] := by
  generalize codesEq : upperCodes code = codes
  cases uppercases_iff.mpr codesEq with
  | several listed =>
      refine .inl ⟨List.mem_append_left _ (List.mem_map_of_mem listed), fun capital member => ?_⟩
      exact List.mem_append_left _ (List.mem_flatMap.mpr ⟨_, listed, member⟩)
  | @one run _ listed contained =>
      have inRun := CaseRun.mem_codes contained
      refine .inl ⟨List.mem_append_right _ (List.mem_flatMap.mpr ⟨run, listed, inRun⟩), ?_⟩
      simp only [List.mem_singleton, forall_eq]
      exact List.mem_append_right _
        (List.mem_flatMap.mpr ⟨run, listed, List.mem_map_of_mem inRun⟩)
  | itself => exact .inr rfl

/-- A capital is its own upper case. -/
theorem upperCodes_of_mem_capitalCodes (member : capital ∈ capitalCodes) :
    upperCodes capital = [capital] := by
  rcases upperCodes_cases capital with ⟨cased, _⟩ | own
  · exact absurd member (disjoint_capitalCodes cased)
  · exact own

theorem upperCodes_ne_nil (code : Nat) : upperCodes code ≠ [] := by
  have several : ∀ entry ∈ caseExpansions, entry.2 ≠ [] := by decide +kernel
  generalize codesEq : upperCodes code = codes
  cases uppercases_iff.mpr codesEq with
  | several listed => exact several _ listed
  | one => exact List.cons_ne_nil _ _
  | itself => exact List.cons_ne_nil _ _

/-! ## Characters -/

section Characters

variable {character letter : Char}

theorem upper_eq_of_uppercases (listed : Uppercases character.toNat codes) :
    upper character = codes.map Char.ofNat := by
  rw [upper, uppercases_iff.mp listed]

theorem upper_ne_nil (character : Char) : upper character ≠ [] := by
  rw [upper, ne_eq, List.map_eq_nil_iff]
  exact upperCodes_ne_nil character.toNat

/-- The upper case of a character consists of capitals, unless the character is its own. -/
theorem mem_upper_cases (member : letter ∈ upper character) :
    letter.toNat ∈ capitalCodes ∨ letter = character ∧ upper character = [character] := by
  obtain ⟨code, codeMem, rfl⟩ := List.mem_map.mp member
  rcases upperCodes_cases character.toNat with ⟨_, capitals⟩ | own
  · have capitalMem := capitals code codeMem
    rw [Utf8.toNat_ofNat_of_isValidChar (isValidChar_of_mem_capitalCodes capitalMem)]
    exact .inl capitalMem
  · rw [own, List.mem_singleton] at codeMem
    rw [upper, own, List.map_singleton, codeMem, Char.ofNat_toNat]
    exact .inr ⟨rfl, rfl⟩

/-- Every letter of an upper case is its own upper case. -/
theorem upper_of_mem_upper (member : letter ∈ upper character) : upper letter = [letter] := by
  rcases mem_upper_cases member with capitalMem | ⟨rfl, own⟩
  · rw [upper, upperCodes_of_mem_capitalCodes capitalMem, List.map_singleton, Char.ofNat_toNat]
  · exact own

end Characters

end ObjectBridge.Text
