import ObjectBridge.Proofs.Bridge.Valid

/-!
# Handles and heap agree

The history of a run says which tokens were issued for which objects and which
were released.  In every state of a run, tokens lead to what the history says
they lead to as long as the heap has it: for an owning handle always, for a weak
handle until its object is collected.  An object that was collected never comes
back, since numbers are not handed out twice.
-/

namespace ObjectBridge

/-! ## Tokens in a history -/

namespace TokenMap

variable {effect : Effect} {history later : List Effect} {token : Token}

theorem issued_apply_suffix (map : TokenMap) (effect : Effect) :
    map.issued <:+ (map.apply effect).issued := by
  cases effect with
  | allocated object collects mode issued =>
      cases issued with
      | none => exact List.suffix_rfl
      | some token => exact List.suffix_cons token map.issued
  | _ => exact List.suffix_rfl

theorem issued_ofHistory_suffix (later history : List Effect) :
    (ofHistory history).issued <:+ (ofHistory (later ++ history)).issued := by
  induction later with
  | nil => exact List.suffix_rfl
  | cons effect later ih => exact ih.trans (issued_apply_suffix _ effect)

/-- A token that was issued keeps its cell until a step releases it. -/
theorem lookup_apply {map : TokenMap} (nodup : (map.apply effect).issued.Nodup)
    (issued : token ∈ map.issued) (notReleased : effect ≠ .released token) :
    (map.apply effect).lookup token = map.lookup token := by
  cases effect with
  | quiet => rfl
  | collected => rfl
  | released other =>
      have notEqual : token ≠ other := fun equal => notReleased (equal ▸ rfl)
      exact (lookup_release map other token).trans (if_neg notEqual)
  | allocated object collects mode newToken =>
      cases newToken with
      | none => rfl
      | some other =>
          have notEqual : token ≠ other := by
            rintro rfl
            exact (List.nodup_cons.mp nodup).1 issued
          exact (lookup_issue map other _ token).trans (if_neg notEqual)

/-- An issued token keeps its cell as long as it is not released, and has none ever
after. -/
theorem lookup_ofHistory_append (nodup : (ofHistory (later ++ history)).issued.Nodup)
    (issued : token ∈ (ofHistory history).issued) :
    (.released token ∉ later →
      (ofHistory (later ++ history)).lookup token = (ofHistory history).lookup token) ∧
    (.released token ∈ later → (ofHistory (later ++ history)).lookup token = none) := by
  induction later with
  | nil => simp
  | cons effect later ih =>
      have earlier : (ofHistory (later ++ history)).issued.Nodup :=
        nodup.sublist (issued_apply_suffix _ effect).sublist
      have member : token ∈ (ofHistory (later ++ history)).issued :=
        (issued_ofHistory_suffix later history).subset issued
      obtain ⟨kept, gone⟩ := ih earlier
      constructor
      · intro notReleased
        rw [List.mem_cons, not_or] at notReleased
        exact (lookup_apply nodup member (Ne.symm notReleased.1)).trans (kept notReleased.2)
      · intro released
        by_cases now : effect = .released token
        · subst now
          exact (lookup_release _ token token).trans (if_pos rfl)
        · have before := (List.mem_cons.mp released).resolve_left (Ne.symm now)
          exact (lookup_apply nodup member now).trans (gone before)

end TokenMap

namespace Machine

variable {options : BridgeOptions} {registry : TypeRegistry} {history later : List Effect}
  {machine last : Machine} {id : ObjectId}

/-- In a run that issues few enough handles, the handle table represents the map of
the tokens issued and not released. -/
theorem Reaches.represents (reaches : Reaches (start options registry) history machine)
    (few : (TokenMap.ofHistory history).issued.length < Token.generations) :
    machine.bridge.store.handles.Represents (.ofHistory history) := by
  induction reaches with
  | refl => exact HandleTable.represents_empty
  | @tail history _ _ effect _ step ih =>
      have earlier : (TokenMap.ofHistory history).issued.length < Token.generations :=
        (TokenMap.issued_apply_suffix _ effect).length_le.trans_lt few
      exact step.change.represents (ih earlier) earlier

/-- An object that is gone stays gone. -/
theorem Reaches.not_mem_objects (reaches : Reaches machine later last) (valid : machine.Valid)
    (allocated : id.number < machine.bridge.store.heap.nextNumber)
    (gone : id ∉ machine.bridge.store.heap.objects) :
    id ∉ last.bridge.store.heap.objects ∧
      id.number < last.bridge.store.heap.nextNumber := by
  induction reaches with
  | refl => exact ⟨gone, allocated⟩
  | @tail _ middle _ effect earlier step ih =>
      obtain ⟨stillGone, numbered⟩ := ih
      refine ⟨?_, ?_⟩
      · rw [step.change.mem_objects_iff (earlier.valid valid).coherent, not_or]
        refine ⟨fun present => stillGone present.1, fun allocates => ?_⟩
        rw [step.change.allocated?_eq allocates] at numbered
        exact Nat.lt_irrefl _ numbered
      · rw [step.change.books.nextNumber_eq]
        exact Nat.lt_add_right _ numbered

private theorem lookup_weak_of_collected
    (reaches : Reaches (start options registry) history machine)
    (few : (TokenMap.ofHistory history).issued.length < Token.generations) {token : Token}
    (collected : machine.bridge.store.resolve token = .error (.collected token.raw)) :
    ∃ id, (TokenMap.ofHistory history).lookup token = some ⟨.weak, id⟩ ∧
      id ∉ machine.bridge.store.heap.objects := by
  have coherent := (reaches.valid (valid_start options registry)).coherent
  rw [coherent.resolve_eq_error_iff] at collected
  rw [← (reaches.represents few).cell?_eq]
  cases cellEq : machine.bridge.store.handles.cell? token with
  | none =>
      rw [Store.resolveId_of_cell?_eq_none cellEq] at collected
      cases collected
  | some cell =>
      rcases cell with ⟨mode, id⟩
      cases mode with
      | owning =>
          rw [(coherent.resolveId_owning cellEq).1] at collected
          contradiction
      | weak =>
          rw [coherent.resolveId_weak cellEq] at collected
          refine ⟨id, rfl, fun member => ?_⟩
          rw [if_pos member] at collected
          contradiction

/-- A weak token whose object is gone stays dead, and leads nowhere once it is
released. -/
private theorem resolve_after_collected
    (reaches : Reaches (start options registry) history machine)
    (laterReaches : Reaches machine later last)
    (few : (TokenMap.ofHistory (later ++ history)).issued.length < Token.generations)
    {token : Token}
    (collected : machine.bridge.store.resolve token = .error (.collected token.raw)) :
    (.released token ∉ later →
      last.bridge.store.resolve token = .error (.collected token.raw)) ∧
    (.released token ∈ later →
      last.bridge.store.resolve token = .error (.invalid token.raw)) := by
  have valid := reaches.valid (valid_start options registry)
  have earlyFew : (TokenMap.ofHistory history).issued.length < Token.generations :=
    (TokenMap.issued_ofHistory_suffix later history).length_le.trans_lt few
  obtain ⟨id, lookupEq, gone⟩ := lookup_weak_of_collected reaches earlyFew collected
  have early := reaches.represents earlyFew
  have late := (reaches.trans laterReaches).represents few
  have issued : token ∈ (TokenMap.ofHistory history).issued :=
    early.wellFormed.mem_issued (TokenMap.mem_keys_of_lookup lookupEq)
  have allocated := valid.coherent.number_lt token _ ((early.cell?_eq token).trans lookupEq)
  have stillGone := (laterReaches.not_mem_objects valid allocated gone).1
  have lastCoherent := (laterReaches.valid valid).coherent
  obtain ⟨kept, released⟩ :=
    TokenMap.lookup_ofHistory_append late.wellFormed.issued_nodup issued
  rw [lastCoherent.resolve_eq_error_iff, lastCoherent.resolve_eq_error_iff]
  constructor
  · intro notReleased
    have cellEq := (late.cell?_eq token).trans ((kept notReleased).trans lookupEq)
    rw [lastCoherent.resolveId_weak cellEq, if_neg stillGone]
  · intro wasReleased
    exact Store.resolveId_of_cell?_eq_none ((late.cell?_eq token).trans (released wasReleased))

/-- In every state of a run that issues few enough handles, an owning token leads to
the object that it was issued for, which is in the heap; a weak token does as long as
the heap has its object, and otherwise says that the object was collected, until it
is released; every other token is invalid.  Whatever an owning handle or a call in
progress refers to is in the heap. -/
theorem handles_agree_with_heap (reaches : Reaches (start options registry) history machine)
    (few : (TokenMap.ofHistory history).issued.length < Token.generations) :
    let map := TokenMap.ofHistory history
    let store := machine.bridge.store
    (∀ token id, map.lookup token = some ⟨.owning, id⟩ →
      (store.resolve token).map (·.id) = .ok id ∧ store.heap.contains id = true) ∧
    (∀ token id, map.lookup token = some ⟨.weak, id⟩ →
      (store.resolve token).map (·.id) =
        if store.heap.contains id then .ok id else .error (.collected token.raw)) ∧
    (∀ token, map.lookup token = none → store.resolve token = .error (.invalid token.raw)) ∧
    (∀ id, machine.Referenced id → store.heap.contains id = true) ∧
    ∀ token later last, store.resolve token = .error (.collected token.raw) →
      Reaches machine later last →
      (TokenMap.ofHistory (later ++ history)).issued.length < Token.generations →
      (.released token ∉ later →
        last.bridge.store.resolve token = .error (.collected token.raw)) ∧
      (.released token ∈ later →
        last.bridge.store.resolve token = .error (.invalid token.raw)) := by
  intro map store
  have valid := reaches.valid (valid_start options registry)
  have represents := reaches.represents few
  have containsIff (id : ObjectId) : store.heap.contains id = true ↔ id ∈ store.heap.objects :=
    List.contains_iff_mem
  refine ⟨?_, ?_, ?_, ?_, ?_⟩
  · intro token id lookupEq
    rw [valid.coherent.map_id_resolve, containsIff]
    exact valid.coherent.resolveId_owning ((represents.cell?_eq token).trans lookupEq)
  · intro token id lookupEq
    rw [valid.coherent.map_id_resolve,
      valid.coherent.resolveId_weak ((represents.cell?_eq token).trans lookupEq)]
    simp only [containsIff]
    rfl
  · intro token lookupEq
    rw [valid.coherent.resolve_eq_error_iff]
    exact Store.resolveId_of_cell?_eq_none ((represents.cell?_eq token).trans lookupEq)
  · intro id referenced
    exact (containsIff id).mpr
      (valid.coherent.counts.mem_of_outside id (valid.outside_pos_iff.mpr referenced))
  · intro token later last collected laterReaches laterFew
    exact resolve_after_collected reaches laterReaches laterFew collected

/-- A type whose objects have no methods. -/
def inert : TypeDescriptor where
  name := "Cell"
  constructors := [⟨[], fun _ => .done ⟨"Cell", []⟩⟩]
  methods := []

/-- A weak token dies with its object, and is no token at all after its release. -/
theorem handles_agree_with_heap_weak :
    let created := proceed (.create "Cell" [] .weak) 2 (start .defaults ⟨[], [("Cell", inert)]⟩)
    let collected := proceed .collect 1 created.2
    let released := proceed (.destroy (.ofSlot 0 0)) 1 collected.2
    created.2.bridge.store.resolveId (.ofSlot 0 0) = .ok ⟨1⟩ ∧
      collected.2.bridge.store.resolve (.ofSlot 0 0) = .error (.collected 1) ∧
      released.2.bridge.store.resolve (.ofSlot 0 0) = .error (.invalid 1) := by
  intro created collected released
  have reaches : Reaches _ (collected.1 ++ created.1) collected.2 :=
    (reaches_proceed _ _ _).trans (reaches_proceed _ _ _)
  have later : Reaches collected.2 released.1 released.2 := reaches_proceed _ _ _
  have few : (TokenMap.ofHistory (collected.1 ++ created.1)).issued.length < Token.generations := by
    decide
  have laterFew : (TokenMap.ofHistory (released.1 ++ (collected.1 ++ created.1))).issued.length <
      Token.generations := by
    decide
  obtain ⟨_, _, _, _, persists⟩ := handles_agree_with_heap reaches few
  have dead : collected.2.bridge.store.resolve (.ofSlot 0 0) = .error (.collected 1) := rfl
  exact ⟨rfl, dead, (persists _ _ _ dead later laterFew).2 List.mem_cons_self⟩

end Machine

end ObjectBridge
