import ObjectBridge.Proofs.Native.Defects

/-!
# Which argument lists are accepted

An argument list is accepted if it is empty, or if both of its buffers are there and every
argument in them can be decoded; it is decoded to as many values, each of the kind of its
tag.  Every other list is rejected for its count, for a missing buffer, or for the first
argument that cannot be decoded, whatever comes after that.
-/

namespace ObjectBridge

namespace ArgumentBuffers

variable {memory : Memory} {buffers : ArgumentBuffers} {position : Nat}
  {entry : Int32 × Address} {values : List Value} {error : MarshalError}

/-- The tag and the address at a position. -/
def argument? (buffers : ArgumentBuffers) (position : Nat) : Option (Int32 × Address) := do
  let tags ← buffers.tags
  let addresses ← buffers.addresses
  let tag ← tags[position]?
  let address ← addresses[position]?
  return (tag, address)

/-- The number of arguments. -/
def arity (buffers : ArgumentBuffers) : Nat := buffers.count.toInt.toNat

/-- Buffers that are there both may be read as far as the count says. -/
def Readable (buffers : ArgumentBuffers) : Prop :=
  ∀ tags addresses, buffers.tags = some tags → buffers.addresses = some addresses →
    buffers.arity ≤ tags.length ∧ buffers.arity ≤ addresses.length

/-- There are no arguments, or both buffers are there and all arguments are decodable. -/
def WellFormed (buffers : ArgumentBuffers) : Prop :=
  buffers.count = 0 ∨
    0 < buffers.count ∧ buffers.tags ≠ none ∧ buffers.addresses ≠ none ∧
      ∀ position < buffers.arity, ∃ entry, buffers.argument? position = some entry ∧ Decodable entry

/-- The first argument that is not decodable. -/
structure FirstDefective (buffers : ArgumentBuffers) (position : Nat) (entry : Int32 × Address) :
    Prop where
  lt_arity : position < buffers.arity
  argument?_eq : buffers.argument? position = some entry
  defective : ¬Decodable entry
  before : ∀ earlier < position, ∃ other, buffers.argument? earlier = some other ∧ Decodable other

/-- Why an argument list is rejected.  An argument is rejected for its tag before it is for
its address. -/
inductive Rejected (buffers : ArgumentBuffers) : MarshalError → Prop
  | negativeCount : buffers.count < 0 → Rejected buffers (.negativeCount buffers.count)
  | nullBuffers : 0 < buffers.count → buffers.tags = none ∨ buffers.addresses = none →
      Rejected buffers (.nullBuffers buffers.count)
  | unknownTag {position : Nat} {entry : Int32 × Address} :
      buffers.FirstDefective position entry → entry.1 < 0 ∨ 11 < entry.1 →
      Rejected buffers (.unknownTag (some position) entry.1)
  | nullValue {position : Nat} {entry : Int32 × Address} {kind : Kind} :
      buffers.FirstDefective position entry → entry.1 = Int32.ofNat kind.code →
      Rejected buffers (.nullValue position kind)

/-! ## Positions -/

theorem argument?_eq_some_iff : buffers.argument? position = some entry ↔
    ∃ tags addresses, buffers.tags = some tags ∧ buffers.addresses = some addresses ∧
      tags[position]? = some entry.1 ∧ addresses[position]? = some entry.2 := by
  rcases entry with ⟨tag, address⟩
  simp [argument?, bind, Option.bind_eq_some_iff]

theorem getElem?_entries : buffers.entries[position]? = some entry ↔
    position < buffers.arity ∧ buffers.argument? position = some entry := by
  rw [entries, List.getElem?_take, Option.ite_none_right_eq_some, argument?_eq_some_iff,
    List.getElem?_zip_eq_some]
  refine and_congr_right fun _ => ?_
  cases buffers.tags with
  | none => simp
  | some tags => cases buffers.addresses <;> simp

/-- Every position below the count has an argument. -/
theorem Readable.exists_argument? (readable : buffers.Readable) (tagsNe : buffers.tags ≠ none)
    (addressesNe : buffers.addresses ≠ none) (below : position < buffers.arity) :
    ∃ entry, buffers.argument? position = some entry := by
  obtain ⟨tags, tagsEq⟩ := Option.ne_none_iff_exists'.mp tagsNe
  obtain ⟨addresses, addressesEq⟩ := Option.ne_none_iff_exists'.mp addressesNe
  obtain ⟨enoughTags, enoughAddresses⟩ := readable tags addresses tagsEq addressesEq
  have tagEq := List.getElem?_eq_getElem (Nat.lt_of_lt_of_le below enoughTags)
  have addressEq := List.getElem?_eq_getElem (Nat.lt_of_lt_of_le below enoughAddresses)
  exact ⟨(_, _), argument?_eq_some_iff.mpr
    ⟨tags, addresses, tagsEq, addressesEq, tagEq, addressEq⟩⟩

theorem exists_argument?_of_le {earlier : Nat} (found : buffers.argument? position = some entry)
    (before : earlier ≤ position) : ∃ other, buffers.argument? earlier = some other := by
  obtain ⟨tags, addresses, tagsEq, addressesEq, tagEq, addressEq⟩ := argument?_eq_some_iff.mp found
  have tagsLt := (List.getElem?_eq_some_iff.mp tagEq).1
  have addressesLt := (List.getElem?_eq_some_iff.mp addressEq).1
  exact ⟨(_, _), argument?_eq_some_iff.mpr ⟨tags, addresses, tagsEq, addressesEq,
    List.getElem?_eq_getElem (Nat.lt_of_le_of_lt before tagsLt),
    List.getElem?_eq_getElem (Nat.lt_of_le_of_lt before addressesLt)⟩⟩

theorem not_lacksBuffer_of_argument? (found : buffers.argument? position = some entry) :
    ¬buffers.lacksBuffer := by
  obtain ⟨tags, addresses, tagsEq, addressesEq, _, _⟩ := argument?_eq_some_iff.mp found
  simp [lacksBuffer, tagsEq, addressesEq]

theorem arity_pos_iff : 0 < buffers.arity ↔ 0 < buffers.count := by
  rw [arity, Int32.lt_iff_toInt_lt, Int32.toInt_zero]
  omega

/-! ## Defects -/

theorem exists_undecodable_iff :
    (∃ error, Undecodable position entry error) ↔ ¬Decodable entry := by
  have detects := detects_decodeEntry .blank position entry
  rw [← @exists_decodeEntry_iff .blank position, detects.exists_ok_iff]
  simp

/-- An argument that is not decodable has an unknown tag, or the tag of a kind and a null
address. -/
theorem undecodable_iff : Undecodable position entry error ↔ ¬Decodable entry ∧
    ((entry.1 < 0 ∨ 11 < entry.1) ∧ error = .unknownTag (some position) entry.1 ∨
      ∃ kind, entry.1 = Int32.ofNat kind.code ∧ error = .nullValue position kind) := by
  constructor
  · intro undecodable
    refine ⟨exists_undecodable_iff.mp ⟨error, undecodable⟩, ?_⟩
    cases undecodable with
    | unknownTag absent => exact .inl ⟨Kind.ofCode?_eq_none_iff.mp absent, rfl⟩
    | nullValue kindEq _ _ => exact .inr ⟨_, Kind.ofCode?_eq_some_iff.mp kindEq, rfl⟩
  · rintro ⟨defective, ⟨outside, rfl⟩ | ⟨kind, tagEq, rfl⟩⟩
    · exact .unknownTag (Kind.ofCode?_eq_none_iff.mpr outside)
    · obtain ⟨_, undecodable⟩ := (@exists_undecodable_iff position _).mpr defective
      have kindEq := Kind.ofCode?_eq_some_iff.mpr tagEq
      cases undecodable with
      | unknownTag absent =>
          rw [kindEq] at absent
          contradiction
      | nullValue found notPointer null =>
          rw [kindEq] at found
          cases found
          exact .nullValue kindEq notPointer null

theorem firstOf_entries_iff : FirstOf (buffers.entries.mapIdx Undecodable) error ↔
    ∃ position entry, buffers.FirstDefective position entry ∧ Undecodable position entry error := by
  rw [firstOf_iff_exists]
  simp only [List.getElem?_mapIdx, Option.map_eq_some_iff]
  constructor
  · rintro ⟨position, _, ⟨entry, found, rfl⟩, undecodable, none⟩
    obtain ⟨below, entryEq⟩ := getElem?_entries.mp found
    refine ⟨position, entry, ⟨below, entryEq, exists_undecodable_iff.mp ⟨_, undecodable⟩, ?_⟩,
      undecodable⟩
    intro earlier before
    obtain ⟨other, otherEq⟩ := exists_argument?_of_le entryEq (Nat.le_of_lt before)
    refine ⟨other, otherEq, ?_⟩
    by_contra defective
    obtain ⟨cause, applies⟩ := exists_undecodable_iff.mpr defective
    have otherFound := getElem?_entries.mpr ⟨Nat.lt_trans before below, otherEq⟩
    exact none earlier before _ ⟨other, otherFound, rfl⟩ cause applies
  · rintro ⟨position, entry, first, undecodable⟩
    refine ⟨position, _, ⟨entry, getElem?_entries.mpr ⟨first.lt_arity, first.argument?_eq⟩, rfl⟩,
      undecodable, ?_⟩
    rintro earlier before _ ⟨other, found, rfl⟩ cause applies
    obtain ⟨same, sameEq, decodable⟩ := first.before earlier before
    obtain rfl : same = other :=
      Option.some.inj (sameEq.symm.trans (getElem?_entries.mp found).2)
    exact exists_undecodable_iff.mp ⟨cause, applies⟩ decodable

/-- What is reported of an argument list is one defect: no other kind of defect hides it. -/
theorem firstOf_defects_iff : FirstOf buffers.defects error ↔
    buffers.negativeCount error ∨ buffers.missingBuffer error ∨
      FirstOf (buffers.entries.mapIdx Undecodable) error := by
  simp only [defects, List.cons_append, List.nil_append, firstOf_cons_iff]
  constructor
  · rintro (negative | ⟨_, missing | ⟨_, first⟩⟩)
    · exact .inl negative
    · exact .inr (.inl missing)
    · exact .inr (.inr first)
  · rintro (negative | missing | first)
    · exact .inl negative
    · refine .inr ⟨?_, .inl missing⟩
      rintro _ ⟨negative, _⟩
      exact Int32.lt_irrefl (Int32.lt_trans missing.1 negative)
    · obtain ⟨position, entry, least, _⟩ := firstOf_entries_iff.mp first
      have positive := arity_pos_iff.mp (Nat.zero_lt_of_lt least.lt_arity)
      refine .inr ⟨?_, .inr ⟨?_, first⟩⟩
      · rintro _ ⟨negative, _⟩
        exact Int32.lt_irrefl (Int32.lt_trans positive negative)
      · rintro _ ⟨_, lacks, _⟩
        exact not_lacksBuffer_of_argument? least.argument?_eq lacks

theorem rejected_iff : buffers.Rejected error ↔ FirstOf buffers.defects error := by
  rw [firstOf_defects_iff, firstOf_entries_iff]
  constructor
  · intro rejected
    cases rejected with
    | negativeCount negative => exact .inl ⟨negative, rfl⟩
    | nullBuffers positive lacks => exact .inr (.inl ⟨positive, lacks, rfl⟩)
    | unknownTag first outside =>
        exact .inr (.inr ⟨_, _, first, undecodable_iff.mpr ⟨first.defective, .inl ⟨outside, rfl⟩⟩⟩)
    | nullValue first tagEq =>
        exact .inr (.inr ⟨_, _, first, undecodable_iff.mpr
          ⟨first.defective, .inr ⟨_, tagEq, rfl⟩⟩⟩)
  · rintro (⟨negative, rfl⟩ | ⟨positive, lacks, rfl⟩ | ⟨position, entry, first, undecodable⟩)
    · exact .negativeCount negative
    · exact .nullBuffers positive lacks
    · rcases (undecodable_iff.mp undecodable).2 with ⟨outside, rfl⟩ | ⟨kind, tagEq, rfl⟩
      · exact .unknownTag first outside
      · exact .nullValue first tagEq

/-! ## Acceptance -/

/-- No argument is reported exactly if all are decodable. -/
theorem forall_decodable_iff :
    (∀ error, ¬FirstOf (buffers.entries.mapIdx Undecodable) error) ↔
      ∀ entry ∈ buffers.entries, Decodable entry := by
  rw [forall_not_firstOf_iff]
  constructor
  · intro none entry member
    obtain ⟨position, present, rfl⟩ := List.getElem_of_mem member
    by_contra defective
    obtain ⟨cause, applies⟩ := (@exists_undecodable_iff position _).mpr defective
    exact none _ (List.mem_mapIdx.mpr ⟨position, present, rfl⟩) cause applies
  · intro decodable defect member cause applies
    obtain ⟨position, present, rfl⟩ := List.mem_mapIdx.mp member
    exact exists_undecodable_iff.mp ⟨cause, applies⟩ (decodable _ (List.getElem_mem present))

theorem exists_decode_iff (readable : buffers.Readable) :
    (∃ values, buffers.decode memory = .ok values) ↔ buffers.WellFormed := by
  rw [(buffers.detects_decode memory).exists_ok_iff]
  simp only [firstOf_defects_iff, not_or, forall_and, forall_decodable_iff]
  constructor
  · rintro ⟨notNegative, notMissing, decodable⟩
    by_cases zero : buffers.count = 0
    · exact .inl zero
    · have positive : 0 < buffers.count := by
        have notBelow : ¬buffers.count < 0 := fun negative => notNegative _ ⟨negative, rfl⟩
        exact Int32.lt_of_le_of_ne (Int32.not_lt.mp notBelow) (Ne.symm zero)
      have present : ¬buffers.lacksBuffer := fun lacks => notMissing _ ⟨positive, lacks, rfl⟩
      obtain ⟨tagsNe, addressesNe⟩ := not_or.mp present
      refine .inr ⟨positive, tagsNe, addressesNe, fun position below => ?_⟩
      obtain ⟨entry, found⟩ := readable.exists_argument? tagsNe addressesNe below
      have member := List.mem_of_getElem? (getElem?_entries.mpr ⟨below, found⟩)
      exact ⟨entry, found, decodable entry member⟩
  · rintro (zero | ⟨positive, tagsNe, addressesNe, decodable⟩)
    · have notPositive : ¬0 < buffers.count := zero ▸ Int32.lt_irrefl
      refine ⟨?_, fun _ missing => notPositive missing.1, ?_⟩
      · rintro _ ⟨negative, _⟩
        rw [zero] at negative
        exact Int32.lt_irrefl negative
      · intro entry member
        obtain ⟨position, found⟩ := List.mem_iff_getElem?.mp member
        have below := (getElem?_entries.mp found).1
        exact absurd (arity_pos_iff.mp (Nat.zero_lt_of_lt below)) notPositive
    · refine ⟨fun _ negative => Int32.lt_asymm positive negative.1,
        fun _ missing => not_or.mpr ⟨tagsNe, addressesNe⟩ missing.2.1, ?_⟩
      intro entry member
      obtain ⟨position, found⟩ := List.mem_iff_getElem?.mp member
      obtain ⟨below, entryEq⟩ := getElem?_entries.mp found
      obtain ⟨same, sameEq, sameDecodable⟩ := decodable position below
      obtain rfl : same = entry := Option.some.inj (sameEq.symm.trans entryEq)
      exact sameDecodable

section WellFormed

variable (wellFormed : buffers.WellFormed)

include wellFormed

theorem WellFormed.exists_argument? (below : position < buffers.arity) :
    ∃ entry, buffers.argument? position = some entry := by
  rcases wellFormed with zero | ⟨_, _, _, decodable⟩
  · have positive := arity_pos_iff.mp (Nat.zero_lt_of_lt below)
    rw [zero] at positive
    exact absurd positive Int32.lt_irrefl
  · obtain ⟨entry, found, _⟩ := decodable position below
    exact ⟨entry, found⟩

theorem WellFormed.arity_eq : (buffers.arity : Int) = buffers.count.toInt := by
  apply Int.toNat_of_nonneg
  rcases wellFormed with zero | ⟨positive, _⟩
  · rw [zero]
    decide
  · exact Int.le_of_lt (Int32.lt_iff_toInt_lt.mp positive)

theorem WellFormed.length_entries : buffers.entries.length = buffers.arity := by
  apply Nat.le_antisymm
  · exact List.length_take_le _ _
  · by_contra short
    obtain ⟨entry, found⟩ := wellFormed.exists_argument? (Nat.lt_of_not_le short)
    have entryEq := getElem?_entries.mpr ⟨Nat.lt_of_not_le short, found⟩
    rw [List.getElem?_length] at entryEq
    contradiction

end WellFormed

/-- An accepted list is decoded argument by argument. -/
theorem forall₂_entries_of_decode (decodes : buffers.decode memory = .ok values) :
    List.Forall₂ (fun entry value => decodeEntry memory 0 entry = .ok value) buffers.entries
      values := by
  rw [decode] at decodes
  cases taken : EncodedArguments.ofBuffers buffers with
  | error cause =>
      rw [taken] at decodes
      contradiction
  | ok arguments =>
      rw [taken] at decodes
      rw [← entries_eq_of_ofBuffers taken]
      exact decodeFrom_eq_ok_iff.mp decodes

/-- Native argument lists are accepted exactly when they are well formed, and an accepted list
has as many values as its count says, each of the kind of its tag.  Every other list is
rejected for its count, for a missing buffer, or for its first defective argument, and for
nothing else. -/
theorem accepted_iff_wellFormed (memory : Memory) (buffers : ArgumentBuffers)
    (readable : buffers.Readable) :
    ((∃ values, buffers.decode memory = .ok values) ↔ buffers.WellFormed) ∧
    (∀ values, buffers.decode memory = .ok values →
      (values.length : Int) = buffers.count.toInt ∧
        ∀ position < buffers.arity, ∃ entry value, buffers.argument? position = some entry ∧
          values[position]? = some value ∧ entry.1 = Int32.ofNat value.kind.code) ∧
    ∀ error, buffers.decode memory = .error error ↔ buffers.Rejected error := by
  refine ⟨exists_decode_iff readable, ?_, ?_⟩
  · intro values decodes
    have wellFormed := (exists_decode_iff readable).mp ⟨values, decodes⟩
    have relates := forall₂_entries_of_decode decodes
    refine ⟨?_, fun position below => ?_⟩
    · rw [← relates.length_eq, wellFormed.length_entries, wellFormed.arity_eq]
    · obtain ⟨entry, found⟩ := wellFormed.exists_argument? below
      obtain ⟨value, valueEq, entryDecodes⟩ :=
        getElem?_of_forall₂ relates (getElem?_entries.mpr ⟨below, found⟩)
      exact ⟨entry, value, found, valueEq, tag_eq_of_decodeEntry entryDecodes⟩
  · intro error
    rw [rejected_iff]
    exact buffers.detects_decode memory error

/-- Of three arguments the second is rejected for its tag, though its address is null and the
third has a defect as well.  A null pointer and a truth are accepted. -/
theorem accepted_iff_wellFormed_mixed :
    let mixed : ArgumentBuffers := ⟨some [4, 99, 8], some [⟨16⟩, .null, .null], 3⟩
    let plain : ArgumentBuffers := ⟨some [11, 10], some [.null, ⟨16⟩], 2⟩
    mixed.Rejected (.unknownTag (some 1) 99) ∧ ¬mixed.WellFormed ∧ plain.WellFormed := by
  intro mixed plain
  have mixedReadable : mixed.Readable := by
    intro tags addresses tagsEq addressesEq
    cases tagsEq
    cases addressesEq
    decide
  have plainReadable : plain.Readable := by
    intro tags addresses tagsEq addressesEq
    cases tagsEq
    cases addressesEq
    decide
  have refused : mixed.decode .blank = .error (.unknownTag (some 1) 99) := rfl
  obtain ⟨acceptedIff, _, rejectedIff⟩ := accepted_iff_wellFormed .blank mixed mixedReadable
  refine ⟨(rejectedIff _).mp refused, ?_,
    (accepted_iff_wellFormed .blank plain plainReadable).1.mp ⟨_, rfl⟩⟩
  intro wellFormed
  obtain ⟨values, decodes⟩ := acceptedIff.mpr wellFormed
  rw [refused] at decodes
  contradiction

end ArgumentBuffers

end ObjectBridge
