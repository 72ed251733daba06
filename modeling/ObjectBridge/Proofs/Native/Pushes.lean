import Mathlib.Data.List.Induction
import ObjectBridge.Native.Pack
import ObjectBridge.Proofs.Native.Cells
import ObjectBridge.Proofs.Native.Decoding

/-!
# Packs decode to what was pushed

A host adds values and raw pairs of a tag and an address to a pack, in any order.  Only
values get cells, so the cells do not count along with the arguments.  Each addition
appends one argument and leaves the earlier ones and their cells as they are, so in the
memory of any later pack a value decodes to itself.  A raw pair decodes to whatever lies
at its address, which later additions leave alone unless the address leads to a cell of
theirs.
-/

namespace ObjectBridge

/-- What a host adds to a pack. -/
inductive Push where
  | value (value : Value)
  /-- A tag and an address as they are. -/
  | raw (tag : Int32) (address : Address)

/-- The cell that comes with an addition. -/
def Push.cell? : Push → Option (List UInt8)
  | value passed => some passed.cell
  | raw _ _ => none

namespace ArgumentPack

/-- Add to a pack. -/
def add (pack : ArgumentPack) : Push → ArgumentPack
  | .value value => pack.push value
  | .raw tag address => pack.pushRaw tag address

/-- The pack of several additions in order. -/
def ofPushes (pushes : List Push) : ArgumentPack := pushes.foldl add empty

/-- The address of a value whose cell has an index. -/
def place (index : Nat) : Value → Address
  | .pointer address => address
  | _ => Memory.blockAddress index

/-- The tag of a value. -/
def tag (value : Value) : Int32 := Int32.ofNat value.kind.code

/-- The argument that an addition makes, if its cell has an index. -/
def entry (index : Nat) : Push → Int32 × Address
  | .value value => (tag value, place index value)
  | .raw tag address => (tag, address)

/-! ## One addition -/

variable {memory outside : Memory} {pack : ArgumentPack} {pushes later : List Push} {push : Push}

theorem add_eq (pack : ArgumentPack) (push : Push) :
    pack.add push = ⟨pack.tags ++ [(entry pack.cells.length push).1],
      pack.addresses ++ [(entry pack.cells.length push).2],
      pack.cells ++ push.cell?.toList⟩ := by
  cases push with
  | value value => cases value <;> rfl
  | raw tag address => simp [add, pushRaw, entry, Push.cell?]

theorem ofPushes_concat (pushes : List Push) (push : Push) :
    ofPushes (pushes ++ [push]) = (ofPushes pushes).add push := by
  rw [ofPushes, List.foldl_append]
  rfl

/-! ## The parts of a pack -/

theorem cells_ofPushes (pushes : List Push) :
    (ofPushes pushes).cells = pushes.filterMap Push.cell? := by
  induction pushes using List.reverseRecOn with
  | nil => rfl
  | append_singleton pushes push ih =>
      rw [ofPushes_concat, add_eq, ih, List.filterMap_append]
      cases push <;> rfl

theorem length_tags_ofPushes (pushes : List Push) :
    (ofPushes pushes).tags.length = pushes.length := by
  induction pushes using List.reverseRecOn with
  | nil => rfl
  | append_singleton pushes push ih => simp [ofPushes_concat, add_eq, ih]

theorem length_addresses_ofPushes (pushes : List Push) :
    (ofPushes pushes).addresses.length = pushes.length := by
  induction pushes using List.reverseRecOn with
  | nil => rfl
  | append_singleton pushes push ih => simp [ofPushes_concat, add_eq, ih]

/-- An addition appends its own argument. -/
theorem entries_ofPushes_concat (pushes : List Push) (push : Push) :
    (ofPushes (pushes ++ [push])).encoded.entries =
      (ofPushes pushes).encoded.entries ++ [entry (ofPushes pushes).cells.length push] := by
  have sameLength : (ofPushes pushes).tags.length = (ofPushes pushes).addresses.length := by
    rw [length_tags_ofPushes, length_addresses_ofPushes]
  rw [ofPushes_concat, add_eq, encoded, List.zip_append sameLength]
  rfl

theorem length_entries_ofPushes (pushes : List Push) :
    (ofPushes pushes).encoded.entries.length = pushes.length := by
  induction pushes using List.reverseRecOn with
  | nil => rfl
  | append_singleton pushes push ih => simp [entries_ofPushes_concat, ih]

theorem entries_prefix_append (pushes later : List Push) :
    (ofPushes pushes).encoded.entries <+: (ofPushes (pushes ++ later)).encoded.entries := by
  induction later using List.reverseRecOn with
  | nil => simp
  | append_singleton later push ih =>
      rw [← List.append_assoc, entries_ofPushes_concat]
      exact ih.trans (List.prefix_append _ _)

theorem length_cells_ofPushes_le (pushes : List Push) :
    (ofPushes pushes).cells.length ≤ pushes.length := by
  rw [cells_ofPushes]
  exact List.length_filterMap_le Push.cell? pushes

/-! ## Buffers -/

/-- The count of a pack that is not too long is the number of its arguments. -/
theorem toInt_count_ofPushes (few : pushes.length < 2 ^ 31) :
    (ofPushes pushes).count.toInt = pushes.length := by
  rw [count, length_tags_ofPushes, Int32.toInt_ofNat_of_lt few]

/-- A pack that something was added to has both buffers. -/
theorem buffers_ofPushes_cons (push : Push) (rest : List Push) :
    (ofPushes (push :: rest)).buffers =
      ⟨some (ofPushes (push :: rest)).tags, some (ofPushes (push :: rest)).addresses,
        (ofPushes (push :: rest)).count⟩ := by
  have tagsFull : ¬(ofPushes (push :: rest)).tags.isEmpty = true := by
    rw [List.isEmpty_iff_length_eq_zero, length_tags_ofPushes]
    exact Nat.add_one_ne_zero _
  have addressesFull : ¬(ofPushes (push :: rest)).addresses.isEmpty = true := by
    rw [List.isEmpty_iff_length_eq_zero, length_addresses_ofPushes]
    exact Nat.add_one_ne_zero _
  rw [buffers, if_neg tagsFull, if_neg addressesFull]

/-- The buffers of a pack hold its arguments, and a pack of none needs no buffers. -/
theorem ofBuffers_ofPushes (few : pushes.length < 2 ^ 31) :
    EncodedArguments.ofBuffers (ofPushes pushes).buffers = .ok (ofPushes pushes).encoded := by
  have countEq := toInt_count_ofPushes few
  cases pushes with
  | nil => rfl
  | cons push rest =>
      have notNegative : ¬(ofPushes (push :: rest)).count < 0 := by
        rw [Int32.lt_iff_toInt_lt, countEq, Int32.toInt_zero]
        omega
      have notZero : (ofPushes (push :: rest)).count ≠ 0 := by
        rw [Ne, ← Int32.toInt_inj, countEq, Int32.toInt_zero, List.length_cons]
        omega
      have whole : (ofPushes (push :: rest)).encoded.entries.length ≤ (push :: rest).length :=
        Nat.le_of_eq (length_entries_ofPushes (push :: rest))
      simp only [EncodedArguments.ofBuffers, buffers_ofPushes_cons, if_neg notNegative,
        if_neg notZero, countEq, Int.toNat_natCast]
      exact congrArg (Except.ok ∘ EncodedArguments.mk) (List.take_of_length_le whole)

/-! ## Decoding -/

/-- What an addition decodes to: a value to itself, and a raw pair to what it says. -/
inductive Yields (memory : Memory) : Push → Value → Prop
  | value {value : Value} : Yields memory (.value value) value
  | raw {tag : Int32} {address : Address} {value : Value} :
      decodeEntry memory 0 (tag, address) = .ok value → Yields memory (.raw tag address) value

/-- A value is decoded from memory in which its cell lies. -/
theorem decodeEntry_of_cell {index position : Nat} {value : Value}
    (few : pack.cells.length ≤ 2 ^ 31) (cellEq : pack.cells[index]? = some value.cell) :
    decodeEntry (pack.memory outside) position (tag value, place index value) = .ok value := by
  have small : index < 2 ^ 31 :=
    Nat.lt_of_lt_of_le (List.getElem?_eq_some_iff.mp cellEq).1 few
  simp only [decodeEntry, tag, Kind.ofCode?_code]
  by_cases pointer : value.kind = .pointer
  · cases value with
    | pointer address => rfl
    | _ => contradiction
  · have placeEq : place index value = Memory.blockAddress index := by
      cases value with
      | pointer address => contradiction
      | _ => rfl
    have widthLe := Value.width_le value.kind
    have enough : value.kind.width ≤ value.cell.length := by
      rwa [Value.cell, length_toLittleEndian]
    have readEq : (pack.memory outside).read (Memory.blockAddress index) value.kind.width =
        value.cell.take value.kind.width :=
      Memory.read_withBlocks small (by rw [List.getElem?_toArray, cellEq]) enough (by omega)
    rw [decodeValue, if_neg pointer, placeEq, Memory.isNull_blockAddress small,
      if_neg Bool.false_ne_true, readEq, Value.ofOctets_cell pointer]

/-- In the memory of a later pack, each argument decodes to what its addition does. -/
theorem forall₂_entries_ofPushes (few : (pushes ++ later).length ≤ 2 ^ 31) (outside : Memory) :
    List.Forall₂
      (fun push entry => ∀ value,
        decodeEntry ((ofPushes (pushes ++ later)).memory outside) 0 entry = .ok value ↔
          Yields ((ofPushes (pushes ++ later)).memory outside) push value)
      pushes (ofPushes pushes).encoded.entries := by
  induction pushes using List.reverseRecOn generalizing later with
  | nil => exact .nil
  | append_singleton pushes push ih =>
      have shift : pushes ++ [push] ++ later = pushes ++ push :: later := by simp
      rw [shift] at few ⊢
      rw [entries_ofPushes_concat]
      refine List.rel_append (ih few) (.cons ?_ .nil)
      intro value
      cases push with
      | raw tag address =>
          constructor
          · exact .raw
          · intro yields
            cases yields with
            | raw decodes => exact decodes
      | value pushed =>
          have cellEq : (ofPushes (pushes ++ .value pushed :: later)).cells[
              (ofPushes pushes).cells.length]? = some pushed.cell := by
            rw [cells_ofPushes, cells_ofPushes, List.filterMap_append,
              List.getElem?_append_right (Nat.le_refl _), Nat.sub_self]
            rfl
          have fewCells := Nat.le_trans (length_cells_ofPushes_le _) few
          rw [entry, decodeEntry_of_cell fewCells cellEq]
          constructor
          · intro same
            cases same
            exact .value
          · intro yields
            cases yields with
            | value => rfl

/-- Decoding a pack yields what was added to it. -/
theorem decode_ofPushes_eq_ok_iff (few : pushes.length ≤ 2 ^ 31) (outside : Memory)
    {values : List Value} :
    (ofPushes pushes).encoded.decode ((ofPushes pushes).memory outside) = .ok values ↔
      List.Forall₂ (Yields ((ofPushes pushes).memory outside)) pushes values := by
  have entries := @forall₂_entries_ofPushes pushes [] (by rwa [List.append_nil]) outside
  rw [List.append_nil] at entries
  rw [EncodedArguments.decode, decodeFrom_eq_ok_iff]
  generalize (ofPushes pushes).encoded.entries = encoded at entries
  generalize (ofPushes pushes).memory outside = memory at entries ⊢
  clear few
  induction entries generalizing values with
  | nil => simp
  | cons here _ ih => cases values <;> simp [here, ih]

/-- If every raw pair decodes to something, every addition does. -/
theorem exists_yields
    (decodable : ∀ tag address, .raw tag address ∈ pushes →
      ∃ value, decodeEntry memory 0 (tag, address) = .ok value) :
    ∃ values, List.Forall₂ (Yields memory) pushes values := by
  induction pushes with
  | nil => exact ⟨[], .nil⟩
  | cons push rest ih =>
      obtain ⟨values, there⟩ := ih fun tag address member =>
        decodable tag address (List.mem_cons_of_mem push member)
      cases push with
      | value value => exact ⟨value :: values, .cons .value there⟩
      | raw tag address =>
          obtain ⟨value, here⟩ := decodable tag address List.mem_cons_self
          exact ⟨value :: values, .cons (.raw here) there⟩

/-! ## Later additions -/

/-- No octet that an argument reads lies in the cell of an index.  Cells are made in memory
that was not in use, so this is so of whatever could be read before the cell was made. -/
def AvoidsCell (argument : Int32 × Address) (index : Nat) : Prop :=
  ∀ kind, Kind.ofCode? argument.1 = some kind → ∀ offset < kind.width, ∀ within < 8,
    argument.2.raw + UInt64.ofNat offset ≠ (Memory.blockAddress index).raw + UInt64.ofNat within

/-- An argument that reads no cell of a later addition decodes as before. -/
theorem decodeEntry_of_avoidsCell (few : (pushes ++ later).length ≤ 2 ^ 31)
    {argument : Int32 × Address}
    (avoids : ∀ index, (ofPushes pushes).cells.length ≤ index →
      index < (ofPushes (pushes ++ later)).cells.length → AvoidsCell argument index)
    (position : Nat) :
    decodeEntry ((ofPushes (pushes ++ later)).memory outside) position argument =
      decodeEntry ((ofPushes pushes).memory outside) position argument := by
  apply decodeEntry_congr
  intro _ kind kindEq _
  apply Memory.read_congr
  intro offset inside
  have fewCells := Nat.le_trans (length_cells_ofPushes_le _) few
  simp only [cells_ofPushes, List.filterMap_append] at avoids fewCells
  simp only [ArgumentPack.memory, cells_ofPushes, List.filterMap_append]
  apply Memory.withBlocks_append fewCells
  intro index block new blockEq within withinLt
  have lengthEq : block.length = 8 := by
    have member := List.mem_of_getElem? blockEq
    rw [← List.filterMap_append] at member
    obtain ⟨push, _, cellEq⟩ := List.mem_filterMap.mp member
    cases push with
    | value value =>
        cases cellEq
        exact length_toLittleEndian 8 _
    | raw tag address => contradiction
  exact avoids index new (List.getElem?_eq_some_iff.mp blockEq).1 kind kindEq offset inside within
    (lengthEq ▸ withinLt)

/-- A value decodes to itself in the memory of every later pack. -/
theorem decodeEntry_of_value (few : (pushes ++ later).length ≤ 2 ^ 31) (outside : Memory)
    {position : Nat} {value : Value} {argument : Int32 × Address}
    (pushEq : pushes[position]? = some (.value value))
    (argumentEq : (ofPushes pushes).encoded.entries[position]? = some argument) (index : Nat) :
    decodeEntry ((ofPushes (pushes ++ later)).memory outside) index argument = .ok value := by
  obtain ⟨found, foundEq, decodes⟩ :=
    getElem?_of_forall₂ (forall₂_entries_ofPushes few outside) pushEq
  rw [argumentEq] at foundEq
  cases foundEq
  exact decodeEntry_eq_ok_of_eq_ok ((decodes value).mpr .value) index

/-- An argument decodes as before in the memory of every later pack, a raw pair as long
as it reads no cell of a later addition. -/
theorem decodeEntry_append (few : (pushes ++ later).length ≤ 2 ^ 31) (outside : Memory)
    {position : Nat} {argument : Int32 × Address}
    (argumentEq : (ofPushes pushes).encoded.entries[position]? = some argument)
    (avoids : ∀ tag address, pushes[position]? = some (.raw tag address) →
      ∀ index, (ofPushes pushes).cells.length ≤ index →
        index < (ofPushes (pushes ++ later)).cells.length → AvoidsCell argument index)
    (index : Nat) :
    decodeEntry ((ofPushes (pushes ++ later)).memory outside) index argument =
      decodeEntry ((ofPushes pushes).memory outside) index argument := by
  have inside := (List.getElem?_eq_some_iff.mp argumentEq).1
  rw [length_entries_ofPushes] at inside
  have pushEq := List.getElem?_eq_getElem inside
  cases pushed : pushes[position] with
  | raw tag address =>
      rw [pushed] at pushEq
      exact decodeEntry_of_avoidsCell few (avoids tag address pushEq) index
  | value value =>
      rw [pushed] at pushEq
      have fewBefore : (pushes ++ []).length ≤ 2 ^ 31 := by
        rw [List.append_nil]
        exact Nat.le_trans (by simp) few
      have before := decodeEntry_of_value fewBefore outside pushEq argumentEq index
      rw [List.append_nil] at before
      exact (decodeEntry_of_value few outside pushEq argumentEq index).trans before.symm

/-- The count of a pack is the number of additions, and its buffers hold its arguments.
If the raw pairs can be decoded, the pack is decoded, each pushed value to itself and
each raw pair to what it decodes to by itself.  Later additions leave the arguments where
they are, and each decodes as before, a raw pair as long as it does not read the cells
that are made later. -/
theorem pack_decodes_to_pushes (few : pushes.length < 2 ^ 31) (outside : Memory) :
    let pack := ofPushes pushes
    let memory := pack.memory outside
    pack.count.toInt = pushes.length ∧
    EncodedArguments.ofBuffers pack.buffers = .ok pack.encoded ∧
    ((∀ tag address, .raw tag address ∈ pushes →
        ∃ value, decodeEntry memory 0 (tag, address) = .ok value) →
      ∃ values, pack.encoded.decode memory = .ok values ∧ values.length = pushes.length ∧
        (∀ (position : Nat) (value : Value), pushes[position]? = some (.value value) →
          values[position]? = some value) ∧
        ∀ (position : Nat) (tag : Int32) (address : Address),
          pushes[position]? = some (.raw tag address) →
            ∃ value, values[position]? = some value ∧
              decodeEntry memory 0 (tag, address) = .ok value) ∧
    ∀ later, (pushes ++ later).length < 2 ^ 31 →
      let grown := ofPushes (pushes ++ later)
      pack.encoded.entries <+: grown.encoded.entries ∧
      ∀ (position : Nat) (argument : Int32 × Address),
        pack.encoded.entries[position]? = some argument →
        (∀ tag address, pushes[position]? = some (.raw tag address) →
          ∀ index, pack.cells.length ≤ index → index < grown.cells.length →
            AvoidsCell argument index) →
        ∀ index, decodeEntry (grown.memory outside) index argument =
          decodeEntry memory index argument := by
  refine ⟨toInt_count_ofPushes few, ofBuffers_ofPushes few, ?_, ?_⟩
  · intro decodable
    obtain ⟨values, yields⟩ := exists_yields decodable
    have decodes := (decode_ofPushes_eq_ok_iff (Nat.le_of_lt few) outside).mpr yields
    refine ⟨values, decodes, yields.length_eq.symm, ?_, ?_⟩
    · intro position value pushEq
      obtain ⟨found, foundEq, foundYields⟩ := getElem?_of_forall₂ yields pushEq
      cases foundYields
      exact foundEq
    · intro position tag address pushEq
      obtain ⟨found, foundEq, foundYields⟩ := getElem?_of_forall₂ yields pushEq
      cases foundYields with
      | raw decodes => exact ⟨found, foundEq, decodes⟩
  · intro later fewLater
    refine ⟨entries_prefix_append pushes later, ?_⟩
    intro position argument argumentEq avoids index
    exact decodeEntry_append (Nat.le_of_lt fewLater) outside argumentEq avoids index

/-- A number that is none, a raw pair that reads the first octet of its cell, and a
pointer to nowhere: a negative zero that is pushed later changes none of them. -/
theorem pack_decodes_to_pushes_mixed :
    let number : Value := .float ⟨0x7FC00001⟩
    let first : Address := Memory.blockAddress 0
    let pushes : List Push := [.value number, .raw 0 first, .value (.pointer .null)]
    let later : List Push := [.value (.double ⟨0x8000000000000000⟩)]
    let memory := (ofPushes pushes).memory .blank
    (∃ values, (ofPushes pushes).encoded.decode memory = .ok values ∧
      values[0]? = some number ∧ values[1]? = some (.sbyte 1) ∧
      values[2]? = some (.pointer .null)) ∧
    ∀ index, decodeEntry ((ofPushes (pushes ++ later)).memory .blank) index (0, first) =
      decodeEntry memory index (0, first) := by
  intro number first pushes later memory
  have few : pushes.length < 2 ^ 31 := by decide
  have octetEq : decodeEntry memory 0 (0, first) = .ok (.sbyte 1) := by decide
  have decodable : ∀ tag address, .raw tag address ∈ pushes →
      ∃ value, decodeEntry memory 0 (tag, address) = .ok value := by
    intro tag address member
    obtain ⟨rfl, rfl⟩ : tag = 0 ∧ address = first := by simpa [pushes] using member
    exact ⟨_, octetEq⟩
  obtain ⟨_, _, decodes, persists⟩ := pack_decodes_to_pushes few .blank
  constructor
  · obtain ⟨values, valuesEq, _, pushed, raw⟩ := decodes decodable
    obtain ⟨value, valueEq, decoded⟩ := raw 1 0 first rfl
    cases octetEq.symm.trans decoded
    exact ⟨values, valuesEq, pushed 0 number rfl, valueEq, pushed 2 (.pointer .null) rfl⟩
  · obtain ⟨_, stays⟩ := persists later (by decide)
    apply stays 1 (0, first) rfl
    intro tag address _ index new present kind kindEq offset inside within near
    obtain rfl : index = 2 := Nat.le_antisymm (Nat.le_of_lt_succ present) new
    cases kindEq
    obtain rfl : offset = 0 := Nat.lt_one_iff.mp inside
    revert within
    decide

end ArgumentPack

end ObjectBridge
