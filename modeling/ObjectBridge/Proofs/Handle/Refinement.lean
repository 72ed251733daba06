import ObjectBridge.Proofs.Handle.TokenMap

/-!
# Runs of a handle table

A host may call a handle table in any order and with any tokens.  Every run in
which no more handles are issued than a table has slots is a run of a map of
tokens: the table gives the answers that the map gives, where the map is free to
choose any token that it never issued before.
-/

namespace ObjectBridge

/-- A call on a handle table. -/
inductive TableCall where
  | register (object : ObjectId) (mode : HandleMode)
  | release (token : Token)
  /-- Ask for the object of a token while some objects are alive. -/
  | resolve (alive : ObjectId → Bool) (token : Token)
  | mode (token : Token)
  | count

/-- The answer to a call on a handle table. -/
inductive TableAnswer where
  | registered (outcome : Except HandleError Token)
  | released (outcome : Except HandleError Unit)
  | resolved (outcome : Except HandleError ObjectId)
  | mode (found : Option HandleMode)
  | count (live : Nat)

/-- Whether a call asks for a handle. -/
def TableCall.isRegister : TableCall → Bool
  | register _ _ => true
  | _ => false

namespace HandleTable

/-- Answer a call. -/
def perform (table : HandleTable) : TableCall → TableAnswer × HandleTable
  | .register object mode =>
      match table.register object mode with
      | .ok (token, after) => (.registered (.ok token), after)
      | .error cause => (.registered (.error cause), table)
  | .release token =>
      match table.release token with
      | .ok after => (.released (.ok ()), after)
      | .error cause => (.released (.error cause), table)
  | .resolve alive token => (.resolved (table.resolve alive token), table)
  | .mode token => (.mode (table.mode? token), table)
  | .count => (.count table.live, table)

/-- Answer calls in order. -/
def run (table : HandleTable) : List TableCall → List TableAnswer × HandleTable
  | [] => ([], table)
  | call :: rest =>
      let (answer, after) := table.perform call
      let (answers, last) := after.run rest
      (answer :: answers, last)

end HandleTable

namespace TokenMap

/-- The answers that a map of tokens may give to a call, and the map afterwards. -/
inductive Step : TokenMap → TableCall → TableAnswer → TokenMap → Prop
  | register {map : TokenMap} {object : ObjectId} {mode : HandleMode} {token : Token} :
      token ∉ map.issued →
      Step map (.register object mode) (.registered (.ok token))
        (map.issue token ⟨mode, object⟩)
  | release {map : TokenMap} {token : Token} {cell : Cell} :
      map.lookup token = some cell →
      Step map (.release token) (.released (.ok ())) (map.release token)
  | refuse {map : TokenMap} {token : Token} :
      map.lookup token = none →
      Step map (.release token) (.released (.error (.invalid token.raw))) map
  | resolveOwning {map : TokenMap} {alive : ObjectId → Bool} {token : Token}
      {object : ObjectId} :
      map.lookup token = some ⟨.owning, object⟩ →
      Step map (.resolve alive token) (.resolved (.ok object)) map
  | resolveWeak {map : TokenMap} {alive : ObjectId → Bool} {token : Token}
      {object : ObjectId} :
      map.lookup token = some ⟨.weak, object⟩ → alive object = true →
      Step map (.resolve alive token) (.resolved (.ok object)) map
  | resolveCollected {map : TokenMap} {alive : ObjectId → Bool} {token : Token}
      {object : ObjectId} :
      map.lookup token = some ⟨.weak, object⟩ → alive object = false →
      Step map (.resolve alive token) (.resolved (.error (.collected token.raw))) map
  | resolveInvalid {map : TokenMap} {alive : ObjectId → Bool} {token : Token} :
      map.lookup token = none →
      Step map (.resolve alive token) (.resolved (.error (.invalid token.raw))) map
  | mode {map : TokenMap} {token : Token} :
      Step map (.mode token) (.mode ((map.lookup token).map (·.mode))) map
  | count {map : TokenMap} : Step map .count (.count map.size) map

/-- The answers that a map of tokens may give to calls in order. -/
inductive Run : TokenMap → List TableCall → List TableAnswer → TokenMap → Prop
  | nil {map : TokenMap} : Run map [] [] map
  | cons {map middle last : TokenMap} {call : TableCall} {answer : TableAnswer}
      {calls : List TableCall} {answers : List TableAnswer} :
      Step map call answer middle → Run middle calls answers last →
      Run map (call :: calls) (answer :: answers) last

end TokenMap

namespace HandleTable

variable {table : HandleTable} {map : TokenMap}

/-- A table gives the object of a token that its map gives. -/
theorem Represents.resolve (represents : table.Represents map) (alive : ObjectId → Bool)
    (token : Token) :
    map.Step (.resolve alive token) (.resolved (table.resolve alive token)) map := by
  have cellEq := represents.cell?_eq token
  cases found : map.lookup token with
  | none =>
      rw [found] at cellEq
      simp only [HandleTable.resolve, cellEq]
      exact .resolveInvalid found
  | some cell =>
      rw [found] at cellEq
      rcases cell with ⟨mode, object⟩
      cases mode with
      | owning =>
          simp only [HandleTable.resolve, cellEq]
          exact .resolveOwning found
      | weak =>
          simp only [HandleTable.resolve, cellEq]
          cases aliveEq : alive object with
          | true => exact .resolveWeak found aliveEq
          | false => exact .resolveCollected found aliveEq

/-- A table that has issued fewer handles than it has room for issues another. -/
theorem Represents.exists_register (represents : table.Represents map)
    (room : map.issued.length < Token.maxSlots) (object : ObjectId) (mode : HandleMode) :
    ∃ token after, table.register object mode = .ok (token, after) := by
  cases registered : table.register object mode with
  | ok issued => exact ⟨issued.1, issued.2, rfl⟩
  | error cause =>
      obtain ⟨freeEq, full, _⟩ := register_eq_error_iff.mp registered
      have occupied : ∀ slot ∈ table.slots, 1 ≤ slot.age := by
        intro slot slotMem
        obtain ⟨index, present, rfl⟩ := List.getElem_of_mem slotMem
        have notFree := represents.sound.mem_free_iff index
        rw [freeEq] at notFree
        have cellSome : table.slots[index].cell ≠ none := by
          intro vacant
          have listed := notFree.mpr ⟨present, by
            simpa [slotAt, List.getD_eq_getElem?_getD, present] using vacant⟩
          contradiction
        simp only [Slot.age, Slot.occupancy, Option.isSome_iff_ne_none.mpr cellSome, if_true]
        omega
      have lengthLe : table.slots.length ≤ table.total Slot.age := by
        have sumLe := List.length_le_sum_of_one_le (table.slots.map Slot.age) (by
          intro age ageMem
          obtain ⟨slot, slotMem, rfl⟩ := List.mem_map.mp ageMem
          exact occupied slot slotMem)
        rwa [List.length_map] at sumLe
      rw [← represents.length_issued] at lengthLe
      omega

/-- One call on a table is one step of its map. -/
theorem Represents.perform (represents : table.Represents map) (call : TableCall)
    (limit : map.issued.length + (if call.isRegister then 1 else 0) ≤ Token.maxSlots) :
    ∃ next, map.Step call (table.perform call).1 next ∧
      (table.perform call).2.Represents next ∧
      next.issued.length = map.issued.length + (if call.isRegister then 1 else 0) := by
  cases call with
  | register object mode =>
      obtain ⟨token, after, registered⟩ := represents.exists_register limit object mode
      obtain ⟨fresh, afterRepresents⟩ := represents.register registered
      simp only [HandleTable.perform, registered]
      exact ⟨_, .register fresh, afterRepresents, rfl⟩
  | release token =>
      cases released : table.release token with
      | ok after =>
          obtain ⟨cell, cellEq⟩ := cell?_isSome_of_release released
          have few : map.issued.length < Token.generations := by
            have limits : Token.maxSlots < Token.generations := by decide
            exact (Nat.le_of_add_right_le limit).trans_lt limits
          simp only [HandleTable.perform, released]
          exact ⟨_, .release ((represents.cell?_eq token).symm.trans cellEq),
            represents.release few released, rfl⟩
      | error cause =>
          obtain ⟨cellEq, rfl⟩ := release_eq_error_iff.mp released
          simp only [HandleTable.perform, released]
          exact ⟨map, .refuse ((represents.cell?_eq token).symm.trans cellEq),
            represents, rfl⟩
  | resolve alive token => exact ⟨map, represents.resolve alive token, represents, rfl⟩
  | mode token =>
      refine ⟨map, ?_, represents, rfl⟩
      simp only [HandleTable.perform, mode?, represents.cell?_eq]
      exact .mode
  | count =>
      refine ⟨map, ?_, represents, rfl⟩
      simp only [HandleTable.perform, represents.live_eq]
      exact .count

/-- Calls on a table are steps of its map, in order. -/
theorem Represents.run (calls : List TableCall) (represents : table.Represents map)
    (limit : map.issued.length + calls.countP TableCall.isRegister ≤ Token.maxSlots) :
    ∃ last, map.Run calls (table.run calls).1 last ∧ (table.run calls).2.Represents last := by
  induction calls generalizing table map with
  | nil => exact ⟨map, .nil, represents⟩
  | cons call rest ih =>
      rw [List.countP_cons] at limit
      obtain ⟨middle, step, middleRepresents, lengthEq⟩ :=
        represents.perform call (by omega)
      obtain ⟨last, run, lastRepresents⟩ := ih middleRepresents (by omega)
      exact ⟨last, .cons step run, lastRepresents⟩

/-- In every run of calls that asks for no more handles than a table has slots,
the table answers as a map of tokens does: each handle gets a token that was
never issued before, and every other answer depends on which tokens were issued
and not yet released.  After the run, the live tokens are issued tokens, and a
release that is refused leaves the table as it is. -/
theorem run_refines_tokenMap (calls : List TableCall)
    (limit : calls.countP TableCall.isRegister ≤ Token.maxSlots) :
    ∃ map, TokenMap.empty.Run calls (empty.run calls).1 map ∧ map.WellFormed ∧
      (∀ token, (empty.run calls).2.cell? token = map.lookup token) ∧
      ∀ token, map.lookup token = none →
        (empty.run calls).2.perform (.release token) =
          (.released (.error (.invalid token.raw)), (empty.run calls).2) := by
  obtain ⟨map, run, represents⟩ :=
    represents_empty.run calls (by simpa [TokenMap.empty] using limit)
  refine ⟨map, run, represents.wellFormed, represents.cell?_eq, ?_⟩
  intro token absent
  have cellEq := (represents.cell?_eq token).trans absent
  simp only [HandleTable.perform, release_eq_error_iff.mpr ⟨cellEq, rfl⟩]

/-- A released token stays dead although its slot is filled again. -/
theorem run_refines_tokenMap_reused_slot :
    let calls : List TableCall :=
      [.register ⟨1⟩ .owning, .release (.ofSlot 0 0), .register ⟨2⟩ .weak,
        .resolve (fun _ => false) (.ofSlot 0 0), .resolve (fun _ => false) (.ofSlot 0 1),
        .release (.ofSlot 0 0), .count]
    calls.countP TableCall.isRegister ≤ Token.maxSlots ∧
      (empty.run calls).1 =
        [.registered (.ok (.ofSlot 0 0)), .released (.ok ()), .registered (.ok (.ofSlot 0 1)),
          .resolved (.error (.invalid 0x1)), .resolved (.error (.collected 0x100000001)),
          .released (.error (.invalid 0x1)), .count 1] ∧
      ∃ map, TokenMap.empty.Run calls (empty.run calls).1 map ∧ map.WellFormed ∧
        (∀ token, (empty.run calls).2.cell? token = map.lookup token) ∧
        ∀ token, map.lookup token = none →
          (empty.run calls).2.perform (.release token) =
            (.released (.error (.invalid token.raw)), (empty.run calls).2) := by
  intro calls
  have limit : calls.countP TableCall.isRegister ≤ Token.maxSlots := by decide
  exact ⟨limit, rfl, run_refines_tokenMap calls limit⟩

end HandleTable

end ObjectBridge
