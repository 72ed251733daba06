import ObjectBridge.Proofs.Bridge.Valid
import ObjectBridge.Proofs.Twin.Stores

/-!
# Bridges that hosts cannot tell apart

Two bridges are twins if their stores are and they agree on everything else that a
host or a body can see; the types they know may differ in the collections that
their bodies ask for.  Twins react alike to every request but a collection, and end
bodies alike as long as no weak handle is issued.
-/

namespace ObjectBridge

/-! ## Weak handles in the journal -/

/-- Whether an event says that a weak handle was issued. -/
def Event.issuesWeak : Event → Bool
  | registered .weak _ _ _ => true
  | _ => false

/-- No weak handle was ever issued. -/
def Bridge.OwningOnly (bridge : Bridge) : Prop :=
  ∀ event ∈ bridge.store.journal, event.issuesWeak = false

theorem Bridge.OwningOnly.of_journal_eq {bridge after : Bridge} {events : Array Event}
    (owning : after.OwningOnly) (journalEq : after.store.journal = bridge.store.journal ++ events) :
    bridge.OwningOnly := by
  intro event member
  refine owning event ?_
  rw [journalEq]
  exact Array.mem_append_left events member

namespace Bridge

/-- Bridges that hosts cannot tell apart. -/
structure Twin (first second : Bridge) : Prop where
  registry : first.registry.SameButCollections second.registry
  calls_eq : first.calls = second.calls
  store : first.store.Twin second.store
  reports_eq : first.reports = second.reports
  drawn_eq : first.drawn = second.drawn

variable {first second after : Bridge}

theorem Twin.with_store (twin : first.Twin second) {firstStore secondStore : Store}
    (stores : firstStore.Twin secondStore) :
    ({ first with store := firstStore } : Bridge).Twin { second with store := secondStore } :=
  ⟨twin.registry, twin.calls_eq, stores, twin.reports_eq, twin.drawn_eq⟩

theorem Twin.tell (twin : first.Twin second) (event : Event) :
    (first.tell event).Twin (second.tell event) :=
  twin.with_store (twin.store.tell event)

/-- Tokens lead to alike objects in twins. -/
theorem Twin.resolve (twin : first.Twin second) (token : Token) :
    Alike Store.AlikeObject (first.resolve token) (second.resolve token) := by
  have alike := twin.store.resolve token
  rw [Bridge.resolve, Bridge.resolve]
  generalize first.store.resolve token = left at alike ⊢
  generalize second.store.resolve token = right at alike ⊢
  cases alike with
  | error cause => exact .error (BridgeError.handle cause)
  | ok here => exact .ok here

/-- Twins answer alike when a handle is released, and stay twins. -/
theorem Twin.destroy (twin : first.Twin second) (token : Token) :
    (first.destroy token).1 = (second.destroy token).1 ∧
      (first.destroy token).2.Twin (second.destroy token).2 := by
  have alike := twin.store.release token
  rw [Bridge.destroy, Bridge.destroy]
  generalize first.store.release token = left at alike ⊢
  generalize second.store.release token = right at alike ⊢
  cases alike with
  | error cause => exact ⟨rfl, twin⟩
  | ok stores => exact ⟨rfl, twin.with_store stores⟩

theorem Twin.collect_left (twin : first.Twin second) : first.collect.2.Twin second :=
  twin.with_store twin.store.collect_left

theorem Twin.collect_right (twin : first.Twin second) : first.Twin second.collect.2 :=
  twin.with_store twin.store.collect_right

/-! ## Beginning and ending bodies -/

/-- Twins react alike to a creation: they answer the same, or begin constructors that
are the same but for collections. -/
theorem Twin.react_create (twin : first.Twin second) (typeName : String)
    (arguments : List Value) (mode : HandleMode) :
    (∃ outcome firstAfter secondAfter,
      first.react (.create typeName arguments mode) =
        .answered (.created outcome) .quiet firstAfter ∧
      second.react (.create typeName arguments mode) =
        .answered (.created outcome) .quiet secondAfter ∧
      firstAfter.Twin secondAfter) ∨
    ∃ work other,
      first.react (.create typeName arguments mode) = .begun (.construction work mode) first ∧
      second.react (.create typeName arguments mode) = .begun (.construction other mode) second ∧
      work.SameButCollections other := by
  have found : Option.Rel (TypeDescriptor.Related Program.SameButCollections)
      (first.registry.findType? typeName) (second.registry.findType? typeName) := by
    have same := twin.registry typeName
    generalize first.registry.findType? typeName = left at same ⊢
    generalize second.registry.findType? typeName = right at same ⊢
    cases same with
    | none => exact .none
    | some types => exact .some types.related
  rcases react_create_related found arguments mode mode with
    ⟨firstEq, secondEq⟩ | ⟨cause, firstEq, secondEq⟩ | ⟨work, other, firstEq, secondEq, related⟩
  · exact .inl ⟨_, _, _, firstEq, secondEq, twin.tell _⟩
  · exact .inl ⟨_, _, _, firstEq, secondEq, twin⟩
  · exact .inr ⟨work, other, firstEq, secondEq, related.sameButCollections⟩

/-- Twins react alike to a call. -/
theorem Twin.react_invoke (twin : first.Twin second) (token : Token) (method : String)
    (arguments : List Value) :
    (∃ outcome,
      first.react (.invoke token method arguments) = .answered (.invoked outcome) .quiet first ∧
      second.react (.invoke token method arguments) =
        .answered (.invoked outcome) .quiet second) ∨
    (∃ object, first.react (.invoke token method arguments) = .reentered object ∧
      second.react (.invoke token method arguments) = .reentered object) ∨
    ∃ work other,
      first.react (.invoke token method arguments) =
        .begun (.invocation work) (first.enter work.receiver) ∧
      second.react (.invoke token method arguments) =
        .begun (.invocation other) (second.enter other.receiver) ∧
      work.SameButCollections other ∧ 0 < first.store.outside work.receiver := by
  have resolved := (twin.resolve token).imp fun left right here =>
    (⟨here.id_eq, here.type.related, here.state_eq⟩ :
      left.Related Program.SameButCollections right)
  rcases react_invoke_related resolved twin.store.running_eq method arguments with
    answered | reentered | ⟨work, other, firstEq, secondEq, related⟩
  · exact .inl answered
  · exact .inr (.inl reentered)
  · refine .inr (.inr ⟨work, other, firstEq, secondEq, related.sameButCollections, ?_⟩)
    cases begins_of_react firstEq with
    | invocation resolvedEq idle => exact twin.store.outside_pos_of_resolveId resolvedEq

/-- A handle is owning if the journal of its issue knows of no weak one. -/
private theorem owning_of_register {store issued : Store} {object : HeapObject}
    {mode : HandleMode} {token : Token}
    (registered : store.register object mode = .ok (token, issued))
    (owning : ∀ event ∈ issued.journal, event.issuesWeak = false) : mode = .owning := by
  obtain ⟨_, _, _, issuedEq⟩ := Store.exists_of_register registered
  cases mode with
  | owning => rfl
  | weak =>
      rw [issuedEq] at owning
      have silent := owning _ Array.mem_push_self
      contradiction

/-- Twins issue handles for alike objects alike, if no weak handle is issued. -/
private theorem Twin.register (twin : first.Twin second) {object other : HeapObject}
    (member : Store.AlikeMember first.store second.store object other) {mode : HandleMode}
    {outcome : Except BridgeError (Option Token)}
    (registered : first.register object mode = (outcome, after)) (owning : after.OwningOnly) :
    ∃ otherAfter, second.register other mode = (outcome, otherAfter) ∧ after.Twin otherAfter := by
  have alike := twin.store.register member mode
  simp only [Bridge.register] at registered ⊢
  generalize second.store.register other mode = right at alike ⊢
  cases leftEq : first.store.register object mode with
  | error cause =>
      rw [leftEq] at alike registered
      cases alike
      cases registered
      exact ⟨second, rfl, twin⟩
  | ok issued =>
      rcases issued with ⟨token, issued⟩
      rw [leftEq] at alike registered
      cases registered
      cases alike with
      | @ok _ otherIssued here =>
          rcases otherIssued with ⟨otherToken, otherIssued⟩
          obtain ⟨tokenEq, stores⟩ := here
          cases tokenEq
          exact ⟨_, rfl, twin.with_store (stores (owning_of_register leftEq owning))⟩

/-- Twins end constructors alike, if no weak handle is issued. -/
theorem Twin.finishConstruction (twin : first.Twin second) {work other : Construction}
    (same : work.SameButCollections other) {mode : HandleMode}
    {result : Except Fault ObjectState} {outcome : Except BridgeError (Option Token)}
    {effect : Effect}
    (finishes : first.finishConstruction work mode result = (outcome, effect, after))
    (owning : after.OwningOnly) :
    ∃ otherEffect otherAfter,
      second.finishConstruction other mode result = (outcome, otherEffect, otherAfter) ∧
      after.Twin otherAfter := by
  cases result with
  | error raised =>
      cases finishes
      exact ⟨.quiet, second, by rw [Bridge.finishConstruction, same.target_eq], twin⟩
  | ok state =>
      obtain ⟨allocated, member⟩ := twin.store.allocate same.type state
      simp only [Bridge.finishConstruction, Prod.mk.injEq] at finishes
      obtain ⟨outcomeEq, _, afterEq⟩ := finishes
      obtain ⟨otherAfter, registered, issued⟩ :=
        (twin.with_store allocated).register member (Prod.ext outcomeEq afterEq) owning
      have pairEq := Prod.mk.inj registered
      exact ⟨_, otherAfter, Prod.ext pairEq.1 (Prod.ext rfl pairEq.2), issued⟩

theorem Twin.finishInvocation (twin : first.Twin second) {work other : Invocation}
    (same : work.SameButCollections other) (result : Except Fault (Option Value)) :
    (first.finishInvocation work result).1 = (second.finishInvocation other result).1 ∧
      (first.finishInvocation work result).2.Twin (second.finishInvocation other result).2 :=
  ⟨by simp only [Bridge.finishInvocation, same.target_eq], twin.with_store twin.store.leave⟩

end Bridge

end ObjectBridge
