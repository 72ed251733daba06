import Mathlib.Data.List.Forall2
import ObjectBridge.Native.Arguments

/-!
# Decoding argument by argument

An argument list is decoded in order, but what an argument decodes to depends on its
own tag and address alone, and on the octets at its address.  Its position only shows
in the error if it cannot be decoded.
-/

namespace ObjectBridge

/-! ## Tags -/

namespace Kind

variable {raw : Int32} {kind : Kind}

private theorem code_of_getElem? {position : Nat} (found : all[position]? = some kind) :
    kind.code = position := by
  obtain ⟨present, rfl⟩ := List.getElem?_eq_some_iff.mp found
  have inOrder : ∀ index : Fin 12, (all.get index).code = index.val := by decide
  exact inOrder ⟨position, present⟩

/-- A tag stands for a kind exactly if it is the code of the kind. -/
theorem ofCode?_eq_some_iff : ofCode? raw = some kind ↔ raw = Int32.ofNat kind.code := by
  constructor
  · intro found
    rw [ofCode?] at found
    split at found
    · contradiction
    · rename_i notNegative
      rw [Int32.lt_iff_toInt_lt, Int32.toInt_zero] at notNegative
      rw [code_of_getElem? found, ← Int32.ofInt_eq_ofNat, Int.toNat_of_nonneg (by omega),
        Int32.ofInt_toInt]
  · rintro rfl
    exact ofCode?_code kind

/-- A tag stands for no kind exactly if it is out of the range of codes. -/
theorem ofCode?_eq_none_iff : ofCode? raw = none ↔ raw < 0 ∨ 11 < raw := by
  rw [ofCode?]
  by_cases negative : raw < 0
  · simp [negative]
  · have lengthEq : all.length = 12 := rfl
    have lastEq : (11 : Int32).toInt = 11 := rfl
    rw [if_neg negative, List.getElem?_eq_none_iff, or_iff_right negative, lengthEq,
      Int32.lt_iff_toInt_lt, lastEq]
    omega

theorem exists_ofCode?_iff : (∃ kind, ofCode? raw = some kind) ↔ 0 ≤ raw ∧ raw ≤ 11 := by
  rw [← Option.isSome_iff_exists, Option.isSome_iff_ne_none, Ne, ofCode?_eq_none_iff, not_or,
    Int32.not_lt, Int32.not_lt]

end Kind

/-- The kind of a value is that which its octets were read as. -/
theorem Value.kind_ofOctets (kind : Kind) (octets : List UInt8) :
    (ofOctets kind octets).kind = kind := by
  cases kind <;> rfl

/-- The tag of the argument is known, and there is a value at its address unless the address
is the value. -/
structure Decodable (entry : Int32 × Address) : Prop where
  tag_known : 0 ≤ entry.1 ∧ entry.1 ≤ 11
  /-- A pointer has the last of the tags. -/
  not_isNull : entry.1 ≠ 11 → entry.2.isNull = false

/-! ## Arguments -/

variable {memory other : Memory} {index : Nat} {entry : Int32 × Address}
  {entries : List (Int32 × Address)} {value : Value} {values : List Value}

/-- An argument is decoded exactly if it can be, and then to a value of the kind of its tag. -/
theorem decodeEntry_eq_ok_iff :
    decodeEntry memory index entry = .ok value ↔
      ∃ kind, Kind.ofCode? entry.1 = some kind ∧
        (kind = .pointer ∧ value = .pointer entry.2 ∨
          kind ≠ .pointer ∧ entry.2.isNull = false ∧
            value = .ofOctets kind (memory.read entry.2 kind.width)) := by
  rw [decodeEntry]
  cases Kind.ofCode? entry.1 with
  | none => simp
  | some kind =>
      by_cases pointer : kind = .pointer
      · simp [decodeValue, pointer, @eq_comm _ value]
      · by_cases null : entry.2.isNull = true
        · simp [decodeValue, pointer, null]
        · simp [decodeValue, pointer, null, @eq_comm _ value]

/-- An argument that can be decoded decodes to the same value at every position. -/
theorem decodeEntry_eq_ok_of_eq_ok (decodes : decodeEntry memory index entry = .ok value)
    (position : Nat) : decodeEntry memory position entry = .ok value :=
  decodeEntry_eq_ok_iff.mpr (decodeEntry_eq_ok_iff.mp decodes)

/-- An argument decodes to something exactly if it is decodable. -/
theorem exists_decodeEntry_iff :
    (∃ value, decodeEntry memory index entry = .ok value) ↔ Decodable entry := by
  constructor
  · rintro ⟨value, decodes⟩
    obtain ⟨kind, kindEq, shape⟩ := decodeEntry_eq_ok_iff.mp decodes
    refine ⟨Kind.exists_ofCode?_iff.mp ⟨kind, kindEq⟩, fun notPointer => ?_⟩
    rcases shape with ⟨rfl, _⟩ | ⟨_, notNull, _⟩
    · exact absurd (Kind.ofCode?_eq_some_iff.mp kindEq) notPointer
    · exact notNull
  · intro decodable
    obtain ⟨kind, kindEq⟩ := Kind.exists_ofCode?_iff.mpr decodable.tag_known
    by_cases pointer : kind = .pointer
    · exact ⟨_, decodeEntry_eq_ok_iff.mpr ⟨kind, kindEq, .inl ⟨pointer, rfl⟩⟩⟩
    · have notLast : entry.1 ≠ 11 := by
        intro last
        rw [last] at kindEq
        cases kindEq
        exact pointer rfl
      exact ⟨_, decodeEntry_eq_ok_iff.mpr
        ⟨kind, kindEq, .inr ⟨pointer, decodable.not_isNull notLast, rfl⟩⟩⟩

theorem tag_eq_of_decodeEntry (decodes : decodeEntry memory index entry = .ok value) :
    entry.1 = Int32.ofNat value.kind.code := by
  obtain ⟨kind, kindEq, ⟨rfl, rfl⟩ | ⟨_, _, rfl⟩⟩ := decodeEntry_eq_ok_iff.mp decodes
  · exact Kind.ofCode?_eq_some_iff.mp kindEq
  · rw [Value.kind_ofOctets]
    exact Kind.ofCode?_eq_some_iff.mp kindEq

/-- Decoding an argument looks at no octets but those at its address, and at these only if the
argument is decodable and no pointer. -/
theorem decodeEntry_congr
    (same : Decodable entry → ∀ kind, Kind.ofCode? entry.1 = some kind → kind ≠ .pointer →
      memory.read entry.2 kind.width = other.read entry.2 kind.width) :
    decodeEntry memory index entry = decodeEntry other index entry := by
  simp only [decodeEntry]
  cases kindEq : Kind.ofCode? entry.1 with
  | none => rfl
  | some kind =>
      by_cases pointer : kind = .pointer
      · simp only [decodeValue, if_pos pointer]
      · cases null : entry.2.isNull with
        | true => simp only [decodeValue, if_neg pointer, null, if_true]
        | false =>
            have decodes : decodeEntry memory index entry =
                .ok (.ofOctets kind (memory.read entry.2 kind.width)) :=
              decodeEntry_eq_ok_iff.mpr ⟨kind, kindEq, .inr ⟨pointer, null, rfl⟩⟩
            have decodable := exists_decodeEntry_iff.mp ⟨_, decodes⟩
            simp only [decodeValue, same decodable kind kindEq pointer]

/-- A list is decoded if its first argument is and the rest is. -/
theorem decodeFrom_cons_eq_ok_iff :
    decodeFrom memory index (entry :: entries) = .ok values ↔
      ∃ value rest, decodeEntry memory index entry = .ok value ∧
        decodeFrom memory (index + 1) entries = .ok rest ∧ values = value :: rest := by
  cases first : decodeEntry memory index entry with
  | error cause => simp [decodeFrom, first, bind, Except.bind]
  | ok value =>
      cases others : decodeFrom memory (index + 1) entries with
      | error cause => simp [decodeFrom, first, others, bind, Except.bind]
      | ok rest =>
          simp [decodeFrom, first, others, bind, Except.bind, pure, Except.pure, eq_comm]

/-- A list is decoded if each of its arguments is, and then to their values in order. -/
theorem decodeFrom_eq_ok_iff :
    decodeFrom memory index entries = .ok values ↔
      List.Forall₂ (fun entry value => decodeEntry memory 0 entry = .ok value) entries values := by
  induction entries generalizing index values with
  | nil => cases values <;> simp [decodeFrom]
  | cons entry entries ih =>
      rw [decodeFrom_cons_eq_ok_iff]
      constructor
      · rintro ⟨value, rest, here, there, rfl⟩
        exact .cons (decodeEntry_eq_ok_of_eq_ok here 0) (ih.mp there)
      · intro decodes
        cases decodes with
        | cons here there =>
            exact ⟨_, _, decodeEntry_eq_ok_of_eq_ok here index, ih.mpr there, rfl⟩

theorem getElem?_of_forall₂ {α β : Type} {related : α → β → Prop} {first : List α}
    {second : List β} (relates : List.Forall₂ related first second) {position : Nat} {member : α}
    (memberEq : first[position]? = some member) :
    ∃ other, second[position]? = some other ∧ related member other := by
  induction relates generalizing position with
  | nil => contradiction
  | cons here _ ih =>
      cases position with
      | zero =>
          cases memberEq
          exact ⟨_, rfl, here⟩
      | succ position => exact ih memberEq

end ObjectBridge
