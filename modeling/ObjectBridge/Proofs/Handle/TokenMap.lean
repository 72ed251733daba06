import Mathlib.Algebra.Order.BigOperators.Group.List
import Mathlib.Algebra.Order.Group.Nat
import Mathlib.Data.List.Nodup
import ObjectBridge.Proofs.Handle.Sound

/-!
# Handle tables as maps of tokens

What a handle table is for can be said without slots: it maps the tokens that
were issued and not released to their cells, and it never issues a token twice.
A table represents such a map as long as fewer handles were issued than a slot
has generations.  The number of handles that have lived in a slot, its age,
carries the argument: a slot has issued exactly the generations below its age,
and the ages add up to the number of handles issued.
-/

namespace ObjectBridge

/-- The tokens issued so far, and those not yet released with their cells. -/
structure TokenMap where
  issued : List Token
  entries : List (Token × Cell)

namespace TokenMap

/-- The map before the first token is issued. -/
def empty : TokenMap := ⟨[], []⟩

/-- The cell of a token that was issued and not released. -/
def lookup (map : TokenMap) (token : Token) : Option Cell := map.entries.lookup token

/-- The number of tokens that were issued and not released. -/
def size (map : TokenMap) : Nat := map.entries.length

/-- Issue a token. -/
def issue (map : TokenMap) (token : Token) (cell : Cell) : TokenMap :=
  ⟨token :: map.issued, (token, cell) :: map.entries⟩

/-- Release a token. -/
def release (map : TokenMap) (token : Token) : TokenMap :=
  { map with entries := map.entries.filter fun entry => entry.1 ≠ token }

theorem lookup_issue (map : TokenMap) (token : Token) (cell : Cell) (other : Token) :
    (map.issue token cell).lookup other =
      if other = token then some cell else map.lookup other := by
  simp only [lookup, issue, List.lookup_cons]
  by_cases same : other = token
  · simp [same]
  · simp [same, beq_false_of_ne same]

private theorem lookup_filter_ne (entries : List (Token × Cell)) (token other : Token) :
    (entries.filter fun entry => entry.1 ≠ token).lookup other =
      if other = token then none else entries.lookup other := by
  induction entries with
  | nil => simp
  | cons entry rest ih =>
      rcases entry with ⟨found, cell⟩
      by_cases foundEq : found = token
      · by_cases same : other = token
        · simpa [foundEq, same] using ih
        · simpa [foundEq, same, List.lookup_cons, beq_false_of_ne same] using ih
      · by_cases same : other = found
        · simp [foundEq, same]
        · simpa [foundEq, List.lookup_cons, beq_false_of_ne same] using ih

theorem lookup_release (map : TokenMap) (token other : Token) :
    (map.release token).lookup other = if other = token then none else map.lookup other :=
  lookup_filter_ne map.entries token other

theorem mem_keys_of_lookup {map : TokenMap} {token : Token} {cell : Cell}
    (found : map.lookup token = some cell) : token ∈ map.entries.map Prod.fst := by
  by_contra absent
  have lookupNone : map.entries.lookup token = none := by
    rw [List.lookup_eq_none_iff]
    intro entry entryMem
    have notEqual : token ≠ entry.1 := by
      rintro rfl
      exact absent (List.mem_map_of_mem entryMem)
    exact bne_iff_ne.mpr notEqual
  rw [lookup, lookupNone] at found
  contradiction

/-- No token is issued twice, and the live tokens are issued tokens, each listed
once. -/
structure WellFormed (map : TokenMap) : Prop where
  issued_nodup : map.issued.Nodup
  keys_nodup : (map.entries.map Prod.fst).Nodup
  mem_issued : ∀ {token}, token ∈ map.entries.map Prod.fst → token ∈ map.issued

theorem wellFormed_empty : empty.WellFormed where
  issued_nodup := List.nodup_nil
  keys_nodup := List.nodup_nil
  mem_issued := by simp [empty]

theorem WellFormed.issue {map : TokenMap} (wellFormed : map.WellFormed) {token : Token}
    {cell : Cell} (fresh : token ∉ map.issued) : (map.issue token cell).WellFormed where
  issued_nodup := List.nodup_cons.mpr ⟨fresh, wellFormed.issued_nodup⟩
  keys_nodup := List.nodup_cons.mpr
    ⟨fun listed => fresh (wellFormed.mem_issued listed), wellFormed.keys_nodup⟩
  mem_issued := by
    intro other listed
    rcases List.mem_cons.mp listed with rfl | listed
    · exact List.mem_cons_self
    · exact List.mem_cons_of_mem _ (wellFormed.mem_issued listed)

theorem WellFormed.release {map : TokenMap} (wellFormed : map.WellFormed) (token : Token) :
    (map.release token).WellFormed := by
  have sublist : ((map.release token).entries.map Prod.fst).Sublist
      (map.entries.map Prod.fst) := List.filter_sublist.map Prod.fst
  exact ⟨wellFormed.issued_nodup, wellFormed.keys_nodup.sublist sublist,
    fun listed => wellFormed.mem_issued (sublist.subset listed)⟩

theorem WellFormed.size_release {map : TokenMap} (wellFormed : map.WellFormed) {token : Token}
    {cell : Cell} (found : map.lookup token = some cell) :
    (map.release token).size + 1 = map.size := by
  have once : map.entries.countP (fun entry => entry.1 == token) = 1 := by
    have countEq := List.count_eq_one_of_mem wellFormed.keys_nodup (mem_keys_of_lookup found)
    rwa [List.count, List.countP_map] at countEq
  have split := List.length_eq_countP_add_countP
    (fun entry : Token × Cell => entry.1 == token) (l := map.entries)
  rw [once] at split
  rw [size, size, split, TokenMap.release, ← List.countP_eq_length_filter, Nat.add_comm]
  congr 1
  apply List.countP_congr
  intro entry _
  simp

end TokenMap

/-! ## Ages -/

/-- How many handles have lived in a slot, as long as its generations do not
start anew. -/
def Slot.age (slot : Slot) : Nat := slot.generation + slot.occupancy

namespace HandleTable

variable {table after : HandleTable} {token other : Token} {cell : Cell}

/-- The slot of a token has issued the token's generation. -/
def HasIssued (table : HandleTable) (token : Token) : Prop :=
  ∃ index, token.index? = some index ∧ token.generation < (table.slotAt index).age

theorem age_le_total (table : HandleTable) (index : Nat) :
    (table.slotAt index).age ≤ table.total Slot.age := by
  by_cases present : index < table.slots.length
  · exact List.le_sum_of_mem (List.mem_map_of_mem (slotAt_mem present))
  · rw [slotAt_of_length_le (Nat.le_of_not_lt present)]
    exact Nat.zero_le _

theorem Updates.hasIssued {index : Nat} {slot : Slot} (updates : table.Updates after index slot)
    (older : (table.slotAt index).age ≤ slot.age) (issued : table.HasIssued other) :
    after.HasIssued other := by
  obtain ⟨position, positionEq, young⟩ := issued
  refine ⟨position, positionEq, ?_⟩
  rw [updates.slotAt_eq]
  split
  · rename_i atIndex
    rw [atIndex] at young
    exact young.trans_le older
  · exact young

/-- A token that comes into an empty slot was never issued before. -/
theorem Fills.not_hasIssued (fills : table.Fills after token cell) :
    ¬ table.HasIssued token := by
  obtain ⟨index, indexEq, slotEq, _⟩ := fills
  rintro ⟨position, positionEq, young⟩
  obtain rfl : position = index := Option.some.inj (positionEq.symm.trans indexEq)
  rw [slotEq] at young
  exact absurd young (Nat.lt_irrefl _)

theorem Fills.hasIssued (fills : table.Fills after token cell) :
    after.HasIssued token ∧ ∀ other, table.HasIssued other → after.HasIssued other := by
  obtain ⟨index, indexEq, slotEq, updates⟩ := fills
  constructor
  · refine ⟨index, indexEq, ?_⟩
    rw [updates.slotAt_eq, if_pos rfl]
    exact Nat.lt_succ_self _
  · intro other issued
    exact updates.hasIssued (by rw [slotEq]; exact Nat.le_succ _) issued

/-- Below the number of generations, emptying a slot keeps its age. -/
theorem Empties.age_eq (empties : table.Empties after token cell)
    (few : table.total Slot.age < Token.generations) :
    Slot.age ⟨(token.generation + 1) % Token.generations, none⟩ =
      Slot.age ⟨token.generation, some cell⟩ := by
  obtain ⟨index, _, slotEq, _⟩ := empties
  have ageLe := table.age_le_total index
  rw [slotEq] at ageLe
  have nextLt : token.generation + 1 < Token.generations := ageLe.trans_lt few
  simp only [Slot.age, Slot.occupancy, Nat.mod_eq_of_lt nextLt]
  rfl

theorem Empties.hasIssued (empties : table.Empties after token cell)
    (few : table.total Slot.age < Token.generations) (issued : table.HasIssued other) :
    after.HasIssued other := by
  have ageEq := empties.age_eq few
  obtain ⟨index, _, slotEq, updates⟩ := empties
  exact updates.hasIssued (by rw [slotEq, ageEq]) issued

/-! ## Representation -/

/-- A table leads tokens where a map does, and its slots account for every token
that was issued. -/
structure Represents (table : HandleTable) (map : TokenMap) : Prop where
  sound : table.Sound
  wellFormed : map.WellFormed
  cell?_eq : ∀ token, table.cell? token = map.lookup token
  live_eq : table.live = map.size
  length_issued : map.issued.length = table.total Slot.age
  hasIssued : ∀ token ∈ map.issued, table.HasIssued token

theorem represents_empty : empty.Represents .empty where
  sound := sound_empty
  wellFormed := TokenMap.wellFormed_empty
  cell?_eq token := cell?_empty
  live_eq := rfl
  length_issued := rfl
  hasIssued := by simp [TokenMap.empty]

/-- Issuing a handle issues a token that was never issued before. -/
theorem Represents.register {map : TokenMap} (represents : table.Represents map)
    {object : ObjectId} {mode : HandleMode}
    (registered : table.register object mode = .ok (token, after)) :
    token ∉ map.issued ∧ after.Represents (map.issue token ⟨mode, object⟩) := by
  have fills := register_fills represents.sound registered
  have afterSound := represents.sound.register registered
  have fresh : token ∉ map.issued := fun issued =>
    fills.not_hasIssued (represents.hasIssued token issued)
  refine ⟨fresh, afterSound, represents.wellFormed.issue fresh, ?_, ?_, ?_, ?_⟩
  · intro other
    rw [fills.cell?_eq, TokenMap.lookup_issue, represents.cell?_eq]
  · rw [represents.sound.live_register registered, represents.live_eq]
    rfl
  · have ageEq := fills.total_eq Slot.age rfl
    have lengthEq := represents.length_issued
    change _ + (token.generation + 0) = _ + (token.generation + 1) at ageEq
    rw [TokenMap.issue, List.length_cons]
    omega
  · intro other issued
    rcases List.mem_cons.mp issued with rfl | issued
    · exact fills.hasIssued.1
    · exact fills.hasIssued.2 other (represents.hasIssued other issued)

/-- Releasing a handle releases its token. -/
theorem Represents.release {map : TokenMap} (represents : table.Represents map)
    (few : map.issued.length < Token.generations)
    (released : table.release token = .ok after) : after.Represents (map.release token) := by
  obtain ⟨cell, cellEq⟩ := cell?_isSome_of_release released
  have empties := release_empties cellEq released
  have afterSound := represents.sound.release released
  rw [represents.length_issued] at few
  refine ⟨afterSound, represents.wellFormed.release token, ?_, ?_, ?_, ?_⟩
  · intro other
    rw [empties.cell?_eq, TokenMap.lookup_release, represents.cell?_eq]
  · have occupancyEq := empties.total_eq Slot.occupancy rfl
    have sizeEq := represents.wellFormed.size_release
      ((represents.cell?_eq token).symm.trans cellEq)
    have liveEq := represents.live_eq
    rw [represents.sound.live_eq, ← sizeEq] at liveEq
    rw [afterSound.live_eq]
    change _ + 1 = _ + 0 at occupancyEq
    omega
  · have ageEq := empties.total_eq Slot.age rfl
    rw [empties.age_eq few, Nat.add_right_cancel_iff] at ageEq
    rw [ageEq, ← represents.length_issued]
    rfl
  · intro other issued
    exact empties.hasIssued few (represents.hasIssued other issued)

end HandleTable

end ObjectBridge
