import ObjectBridge.Proofs.Native.Cells
import ObjectBridge.Proofs.Native.Decoding

/-!
# What decoding reads

Of an argument list, decoding reads the values before the first defective argument, and of
each the octets that its kind has.  Pointers are not followed.  The cell of a decoded value
holds the octets that it was read from, and zeros after them; only a truth is passed as one
whatever octet it was read from.
-/

namespace ObjectBridge

variable {memory other : Memory} {index : Nat} {entry : Int32 × Address}
  {entries : List (Int32 × Address)} {kind : Kind} {octets : List UInt8}

/-! ## The footprint of a list -/

/-- The argument at the position and those before it can be decoded. -/
def DecodableThrough (entries : List (Int32 × Address)) (position : Nat) : Prop :=
  ∀ earlier ≤ position, ∀ entry, entries[earlier]? = some entry → Decodable entry

/-- Two memories hold the same octets of every value before the first defective argument. -/
def AgreeOn (entries : List (Int32 × Address)) (memory other : Memory) : Prop :=
  ∀ position entry kind, entries[position]? = some entry → DecodableThrough entries position →
    Kind.ofCode? entry.1 = some kind → kind ≠ .pointer →
      ∀ offset < kind.width, memory (entry.2.raw + UInt64.ofNat offset) =
        other (entry.2.raw + UInt64.ofNat offset)

theorem Decodable.through_zero (decodable : Decodable entry) :
    DecodableThrough (entry :: entries) 0 := by
  intro earlier first before found
  obtain rfl := Nat.le_zero.mp first
  cases found
  exact decodable

theorem Decodable.through_succ (decodable : Decodable entry) {position : Nat}
    (through : DecodableThrough entries position) :
    DecodableThrough (entry :: entries) (position + 1) := by
  intro earlier reached before found
  cases earlier with
  | zero =>
      cases found
      exact decodable
  | succ earlier => exact through earlier (Nat.le_of_succ_le_succ reached) before found

theorem AgreeOn.tail (agree : AgreeOn (entry :: entries) memory other)
    (decodable : Decodable entry) : AgreeOn entries memory other := by
  intro position member kind found through
  exact agree (position + 1) member kind found (decodable.through_succ through)

/-- Decoding looks at nothing outside of the footprint. -/
theorem decodeFrom_congr (agree : AgreeOn entries memory other) :
    decodeFrom memory index entries = decodeFrom other index entries := by
  induction entries generalizing index with
  | nil => rfl
  | cons entry entries ih =>
      have headEq : decodeEntry memory index entry = decodeEntry other index entry := by
        apply decodeEntry_congr
        intro decodable kind kindEq scalar
        exact Memory.read_congr (agree 0 entry kind rfl decodable.through_zero kindEq scalar)
      rw [decodeFrom, decodeFrom, headEq]
      cases decodes : decodeEntry other index entry with
      | error cause => rfl
      | ok value =>
          -- The rest is read only now that the first argument is known to be decodable.
          rw [ih (agree.tail (exists_decodeEntry_iff.mp ⟨value, decodes⟩))]

/-! ## The octets of a value -/

/-- The octets in which a value is passed that was read from these.  A truth that is not
zero is one. -/
def Kind.passedAs (kind : Kind) (octets : List UInt8) : List UInt8 :=
  if kind = .bool then (if octets = [0] then [0] else [1]) else octets

namespace Value

/-- The number of a value is what its octets spell, unless they stand for a truth. -/
theorem nativeNumber_ofOctets (scalar : kind ≠ .pointer) (notBool : kind ≠ .bool)
    (lengthEq : octets.length = kind.width) :
    (ofOctets kind octets).nativeNumber = littleEndian octets := by
  have small := littleEndian_lt octets
  rw [lengthEq] at small
  cases kind with
  | pointer => contradiction
  | bool => contradiction
  | _ => simpa [ofOctets, nativeNumber, Kind.width] using small

/-- The cell of a value holds the octets that the value was read from. -/
theorem cell_ofOctets (scalar : kind ≠ .pointer) (lengthEq : octets.length = kind.width) :
    (ofOctets kind octets).cell = kind.passedAs octets ++ List.replicate (8 - kind.width) 0 := by
  by_cases bool : kind = .bool
  · subst bool
    obtain ⟨octet, rfl⟩ := List.length_eq_one_iff.mp lengthEq
    by_cases zero : octet = 0
    · subst zero
      rfl
    · have numberNe : littleEndian [octet] ≠ 0 := by
        intro numberEq
        exact zero (UInt8.toNat_inj.mp numberEq)
      have truth : ofOctets .bool [octet] = .bool true := by
        rw [ofOctets, bne_iff_ne.mpr numberNe]
      rw [truth, Kind.passedAs, if_pos rfl, if_neg (by simpa using zero)]
      rfl
  · have small := littleEndian_lt octets
    rw [lengthEq] at small
    rw [cell, nativeNumber_ofOctets scalar bool lengthEq,
      toLittleEndian_of_lt (width_le kind) small, ← lengthEq, toLittleEndian_littleEndian,
      Kind.passedAs, if_neg bool]

end Value

/-- What is read at a place that holds the cell of a value is that value. -/
theorem decodeEntry_cell {value : Value} {tag : Int32} {place : Address}
    (kindEq : Kind.ofCode? tag = some value.kind) (scalar : value.kind ≠ .pointer)
    (notNull : place.isNull = false) (holds : memory.read place 8 = value.cell) :
    decodeEntry memory index (tag, place) = .ok value := by
  refine decodeEntry_eq_ok_iff.mpr ⟨value.kind, kindEq, .inr ⟨scalar, notNull, ?_⟩⟩
  rw [← Memory.take_read (Value.width_le value.kind), holds, Value.ofOctets_cell scalar]

namespace EncodedArguments

/-- Decoding depends on the octets of the values before the first defective argument alone.
The cell of a decoded value holds its octets and otherwise zeros, and decodes to the value
again wherever it lies. -/
theorem decode_footprint (arguments : EncodedArguments) (memory : Memory) :
    (∀ other, AgreeOn arguments.entries memory other →
      arguments.decode memory = arguments.decode other) ∧
    ∀ position tag address kind, arguments.entries[position]? = some (tag, address) →
      Kind.ofCode? tag = some kind → kind ≠ .pointer → address.isNull = false →
      ∃ value, decodeEntry memory position (tag, address) = .ok value ∧
        (∀ values, arguments.decode memory = .ok values → values[position]? = some value) ∧
        value.cell = kind.passedAs (memory.read address kind.width) ++
          List.replicate (8 - kind.width) 0 ∧
        ∀ other index place, place.isNull = false → other.read place 8 = value.cell →
          decodeEntry other index (tag, place) = .ok value := by
  refine ⟨fun other agree => decodeFrom_congr agree, ?_⟩
  intro position tag address kind found kindEq scalar notNull
  have decodes (index : Nat) : decodeEntry memory index (tag, address) =
      .ok (.ofOctets kind (memory.read address kind.width)) :=
    decodeEntry_eq_ok_iff.mpr ⟨kind, kindEq, .inr ⟨scalar, notNull, rfl⟩⟩
  refine ⟨_, decodes position, ?_,
    Value.cell_ofOctets scalar (memory.length_read address kind.width), ?_⟩
  · intro values decoded
    obtain ⟨value, valueEq, entryDecodes⟩ :=
      getElem?_of_forall₂ (decodeFrom_eq_ok_iff.mp decoded) found
    rw [decodes 0] at entryDecodes
    rw [valueEq, Except.ok.inj entryDecodes]
  · intro other index place placed holds
    rw [← Value.kind_ofOctets kind (memory.read address kind.width)] at kindEq scalar
    exact decodeEntry_cell kindEq scalar placed holds

/-- Nothing is read behind a truth, at a pointer, or after an argument without a kind.  A truth
that was read from a two is passed as one. -/
theorem decode_footprint_truth :
    let arguments : EncodedArguments := ⟨[(10, ⟨16⟩), (11, ⟨32⟩), (99, ⟨48⟩), (4, ⟨64⟩)]⟩
    let quiet : Memory := fun place => if place = 16 then 2 else 0
    let noisy : Memory := fun place => if place = 16 then 2 else 7
    arguments.decode noisy = arguments.decode quiet ∧
      ∃ value, decodeEntry noisy 0 (10, ⟨16⟩) = .ok value ∧
        value.cell = [1, 0, 0, 0, 0, 0, 0, 0] ∧
        decodeEntry (quiet.withBlocks #[value.cell]) 3 (10, Memory.blockAddress 0) =
          .ok value := by
  intro arguments quiet noisy
  have agree : AgreeOn arguments.entries noisy quiet := by
    intro position entry kind found through kindEq scalar offset inside
    match position with
    | 0 =>
        cases found
        cases kindEq
        obtain rfl := Nat.lt_one_iff.mp inside
        rfl
    | 1 =>
        cases found
        cases kindEq
        contradiction
    | position + 2 =>
        have unknown := (through 2 (Nat.le_add_left 2 position) (99, ⟨48⟩) rfl).tag_known
        exact absurd unknown.2 (by decide)
  obtain ⟨same, entriesOk⟩ := decode_footprint arguments noisy
  obtain ⟨value, decodes, _, cellEq, again⟩ :=
    entriesOk 0 10 ⟨16⟩ .bool rfl rfl (by decide) rfl
  refine ⟨same quiet agree, value, decodes, cellEq, again _ 3 _ ?_ ?_⟩
  · exact Memory.isNull_blockAddress (by decide)
  · have lengthEq : value.cell.length = 8 := by
      rw [cellEq]
      rfl
    rw [Memory.read_withBlocks (by decide) rfl (Nat.le_of_eq lengthEq.symm) (by decide),
      List.take_of_length_le (Nat.le_of_eq lengthEq)]

end EncodedArguments

end ObjectBridge
