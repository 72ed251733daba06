import ObjectBridge.Proofs.Bridge.Adequacy
import ObjectBridge.Proofs.Bridge.Valid
import ObjectBridge.Proofs.Mode.Stores

/-!
# Bridges that differ in their modes

Two bridges are the same but for modes if their stores and the types that they know are.
Whatever is asked of them, in any mode, they react to alike: with the same answer, or by
beginning bodies that are the same but for modes.  Bodies go on and end alike as well, so
bridges and bodies stay the same but for modes until something is collected.
-/

namespace ObjectBridge

/-! ## Effects -/

/-- The effect of a step, had it issued an owning handle. -/
def Effect.owning : Effect → Effect
  | allocated object collects _ issued => allocated object collects .owning issued
  | effect => effect

/-- A step that is the last in a run without a collection does not collect. -/
theorem Store.Change.uncollected {store after : Store} {effect : Effect}
    (change : store.Change effect after) (none : after.heap.collections = 0) :
    effect.collects = false ∧ store.heap.collections = 0 := by
  have countEq := change.books.collections_eq
  cases collects : effect.collects with
  | true =>
      rw [collects, if_pos rfl] at countEq
      exact absurd (countEq.symm.trans none) (Nat.succ_ne_zero _)
  | false =>
      rw [collects, if_neg Bool.false_ne_true] at countEq
      exact ⟨rfl, countEq.symm.trans none⟩

/-- An allocation that collects nothing just adds the object. -/
theorem Store.allocate_of_not_due {store : Store} (notDue : store.heap.isDue = false)
    (type : TypeDescriptor) (state : ObjectState) :
    store.allocate type state = (store.heap.nextObject type state, store.insert type state) := by
  rw [allocate_eq, ready, if_neg (ne_true_of_eq_false notDue)]

namespace Bridge

/-- Bridges that differ only in modes, in the references that owning handles count, and in
what the journals tell of them. -/
structure SameButModes (first second : Bridge) : Prop where
  registry : first.registry.SameButModes second.registry
  calls_eq : first.calls = second.calls
  store : first.store.SameButModes second.store
  reports_eq : first.reports = second.reports
  drawn_eq : first.drawn = second.drawn

end Bridge

/-- Reactions with the same answer, or with the same beginning but for modes.  Nothing is
said of an answer that was given after a collection. -/
inductive Reaction.SameButModes : Reaction → Reaction → Prop
  | answered {answer otherAnswer : Answer} {effect otherEffect : Effect} {after other : Bridge} :
      (effect.collects = false →
        answer = otherAnswer ∧ effect = otherEffect ∧ after.SameButModes other) →
      SameButModes (.answered answer effect after) (.answered otherAnswer otherEffect other)
  | begun {frame otherFrame : Frame} {after other : Bridge} :
      frame.SameButModes otherFrame → after.SameButModes other →
      SameButModes (.begun frame after) (.begun otherFrame other)
  | reentered (object : ObjectId) : SameButModes (.reentered object) (.reentered object)

namespace Bridge.SameButModes

variable {first second : Bridge} (same : first.SameButModes second)

include same

theorem with_store {firstStore secondStore : Store}
    (stores : firstStore.SameButModes secondStore) :
    ({ first with store := firstStore } : Bridge).SameButModes
      { second with store := secondStore } :=
  ⟨same.registry, same.calls_eq, stores, same.reports_eq, same.drawn_eq⟩

theorem tell (event : Event) : (first.tell event).SameButModes (second.tell event) :=
  same.with_store (same.store.tell event event)

theorem setState (id : ObjectId) (state : ObjectState) :
    (first.setState id state).SameButModes (second.setState id state) :=
  same.with_store (same.store.setState id state)

/-- Tokens lead to the same objects, but for modes. -/
theorem resolve (token : Token) :
    Alike (HeapObject.Related Program.SameButModes) (first.resolve token)
      (second.resolve token) := by
  rw [Bridge.resolve, Bridge.resolve]
  rcases (same.store.resolve token).error_or_ok with
    ⟨cause, firstEq, secondEq⟩ | ⟨object, other, firstEq, secondEq, objects⟩
  · rw [firstEq, secondEq]
    exact .error _
  · rw [firstEq, secondEq]
    exact .ok objects

/-! ## Reactions -/

private theorem react_create (typeName : String) (arguments : List Value)
    (mode otherMode : HandleMode) :
    (first.react (.create typeName arguments mode)).SameButModes
      (second.react (.create typeName arguments otherMode)) := by
  rcases react_create_related (same.registry typeName) arguments mode otherMode with
    ⟨firstEq, secondEq⟩ | ⟨cause, firstEq, secondEq⟩ | ⟨work, other, firstEq, secondEq, works⟩
  · rw [firstEq, secondEq]
    exact .answered fun _ => ⟨rfl, rfl, same.tell _⟩
  · rw [firstEq, secondEq]
    exact .answered fun _ => ⟨rfl, rfl, same⟩
  · rw [firstEq, secondEq]
    exact .begun (.construction mode otherMode works) same

private theorem react_invoke (token : Token) (method : String) (arguments : List Value) :
    (first.react (.invoke token method arguments)).SameButModes
      (second.react (.invoke token method arguments)) := by
  rcases react_invoke_related (same.resolve token) same.store.running_eq method arguments with
    ⟨outcome, firstEq, secondEq⟩ | ⟨object, firstEq, secondEq⟩ |
    ⟨work, other, firstEq, secondEq, works⟩
  · rw [firstEq, secondEq]
    exact .answered fun _ => ⟨rfl, rfl, same⟩
  · rw [firstEq, secondEq]
    exact .reentered object
  · have member : work.receiver ∈ first.store.heap.objects := by
      cases begins_of_react firstEq with
      | invocation resolved idle =>
          exact same.store.first_whole.coherent.mem_of_resolveId resolved
    rw [firstEq, secondEq, ← works.receiver_eq]
    exact .begun (.invocation works) (same.with_store (same.store.enter member))

private theorem react_destroy (token : Token) :
    (first.react (.destroy token)).SameButModes (second.react (.destroy token)) := by
  simp only [react]
  rcases (same.store.release token).error_or_ok with
    ⟨cause, firstEq, secondEq⟩ | ⟨firstAfter, secondAfter, firstEq, secondEq, stores⟩
  · rw [firstEq, secondEq]
    exact .answered fun _ => ⟨rfl, rfl, same⟩
  · rw [firstEq, secondEq]
    exact .answered fun _ => ⟨rfl, rfl, same.with_store stores⟩

/-- Requests in any modes are reacted to alike. -/
theorem react {request other : Request} (asked : request.SameButModes other) :
    (first.react request).SameButModes (second.react other) := by
  cases asked with
  | create typeName arguments mode otherMode =>
      exact same.react_create typeName arguments mode otherMode
  | invoke token method arguments => exact same.react_invoke token method arguments
  | destroy token => exact same.react_destroy token
  | collect => exact .answered fun collects => absurd collects.symm Bool.false_ne_true

/-! ## Bodies that go on by themselves -/

private theorem advance_of_holds {σ α : Type} {save : σ → Bridge → Bridge}
    {hold otherHold : Program σ α → Frame} (holds : Frame.Holds save hold)
    (otherHolds : Frame.Holds save otherHold)
    (saves : ∀ state, (save state first).SameButModes (save state second))
    (frames : ∀ next otherNext, next.SameButModes otherNext →
      (hold next).SameButModes (otherHold otherNext))
    {body other : Program σ α} (bodies : body.SameButModes other) :
    Option.Rel (fun left right => left.1.SameButModes right.1 ∧ left.2.SameButModes right.2)
      ((hold body).advance? first) ((otherHold other).advance? second) := by
  rw [holds.advance?_eq, otherHolds.advance?_eq]
  cases bodies with
  | write state rest => exact .some ⟨frames _ _ rest, saves state⟩
  | internalCall className member moduleName rest =>
      simp only [Program.advance?, same.calls_eq]
      exact .some ⟨frames _ _ (rest _), same⟩
  | draw rest =>
      simp only [Program.advance?, same.drawn_eq]
      exact .some ⟨frames _ _ (rest _), same.registry, same.calls_eq, same.store,
        same.reports_eq, rfl⟩
  | _ => exact .none

theorem advance {frame other : Frame} (frames : frame.SameButModes other) :
    Option.Rel (fun left right => left.1.SameButModes right.1 ∧ left.2.SameButModes right.2)
      (frame.advance? first) (other.advance? second) := by
  cases frames with
  | @construction work other mode otherMode works =>
      exact same.advance_of_holds (Frame.holds_construction work.type work.target mode)
        (Frame.holds_construction other.type other.target otherMode) (fun state => state.elim)
        (fun _ _ here => .construction mode otherMode ⟨works.type, works.target_eq, here⟩)
        works.body
  | @invocation work other works =>
      have otherHolds : Frame.Holds (Bridge.setState work.receiver) fun body =>
          .invocation ⟨other.receiver, other.target, body⟩ := by
        rw [works.receiver_eq]
        exact Frame.holds_invocation other.receiver other.target
      exact same.advance_of_holds (Frame.holds_invocation work.receiver work.target) otherHolds
        (same.setState work.receiver)
        (fun _ _ here => .invocation ⟨works.receiver_eq, works.target_eq, here⟩) works.body

/-! ## Bodies that end -/

/-- A handle for a new object is issued alike, whatever its mode. -/
private theorem register_new {type otherType : TypeDescriptor}
    (types : type.Related Program.SameButModes otherType) (state : ObjectState)
    (mode otherMode : HandleMode) :
    let left := ({ first with store := first.store.insert type state } : Bridge).register
      (first.store.heap.nextObject type state) mode
    let right := ({ second with store := second.store.insert otherType state } : Bridge).register
      (second.store.heap.nextObject otherType state) otherMode
    left.1 = right.1 ∧ left.2.SameButModes right.2 := by
  have inserted := same.store.insert types state
  have idEq : (first.store.heap.nextObject type state).id =
      (second.store.heap.nextObject otherType state).id :=
    congrArg ObjectId.mk same.store.nextNumber_eq
  have member : (first.store.heap.nextObject type state).id ∈
      (first.store.insert type state).heap.objects :=
    Heap.mem_objects_insert.mpr (.inr rfl)
  simp only [Bridge.register]
  rcases (inserted.register idEq member mode otherMode).error_or_ok with
    ⟨cause, firstEq, secondEq⟩ | ⟨⟨token, _⟩, ⟨_, _⟩, firstEq, secondEq, tokenEq, stores⟩
  · rw [firstEq, secondEq]
    exact ⟨rfl, same.with_store inserted⟩
  · obtain rfl : token = _ := tokenEq
    rw [firstEq, secondEq]
    exact ⟨rfl, same.with_store stores⟩

/-- Constructors end alike, whatever the modes of the handles for their objects, if no
collection is due. -/
theorem finishConstruction {work other : Construction}
    (works : work.Related Program.SameButModes other) (mode otherMode : HandleMode)
    (result : Except Fault ObjectState)
    (keeps : (first.finishConstruction work mode result).2.1.collects = false) :
    (first.finishConstruction work mode result).1 =
        (second.finishConstruction other otherMode result).1 ∧
      (first.finishConstruction work mode result).2.1.owning =
        (second.finishConstruction other otherMode result).2.1.owning ∧
      (first.finishConstruction work mode result).2.2.SameButModes
        (second.finishConstruction other otherMode result).2.2 := by
  cases result with
  | error raised => exact ⟨by simp only [Bridge.finishConstruction, works.target_eq], rfl, same⟩
  | ok state =>
      have notDue : first.store.heap.isDue = false := keeps
      have otherNotDue := same.store.isDue_eq.symm.trans notDue
      obtain ⟨outcomeEq, afterSame⟩ := same.register_new works.type state mode otherMode
      simp only [Bridge.finishConstruction, Bridge.allocate, Store.allocate_of_not_due notDue,
        Store.allocate_of_not_due otherNotDue]
      refine ⟨outcomeEq, ?_, afterSame⟩
      simp only [Effect.owning, outcomeEq, notDue, otherNotDue]
      exact congrArg (Effect.allocated ⟨·⟩ false .owning _) same.store.nextNumber_eq

theorem finishInvocation {work other : Invocation}
    (works : work.Related Program.SameButModes other) (result : Except Fault (Option Value)) :
    (first.finishInvocation work result).1 = (second.finishInvocation other result).1 ∧
      (first.finishInvocation work result).2.SameButModes
        (second.finishInvocation other result).2 :=
  ⟨by simp only [Bridge.finishInvocation, works.target_eq], same.with_store same.store.leave⟩

theorem finish {frame other : Frame} (frames : frame.SameButModes other) :
    Option.Rel
      (fun left right => left.2.1.collects = false →
        left.1 = right.1 ∧ left.2.1.owning = right.2.1.owning ∧ left.2.2.SameButModes right.2.2)
      (frame.finish? first) (other.finish? second) := by
  cases frames with
  | @construction work other mode otherMode works =>
      simp only [Frame.finish?, works.body.immediate?_eq]
      cases other.body.immediate? with
      | none => exact .none
      | some result =>
          refine .some fun keeps => ?_
          obtain ⟨outcomeEq, effectEq, afterSame⟩ :=
            same.finishConstruction works mode otherMode result keeps
          exact ⟨congrArg Answer.created outcomeEq, effectEq, afterSame⟩
  | @invocation work other works =>
      simp only [Frame.finish?, works.body.immediate?_eq]
      cases other.body.immediate? with
      | none => exact .none
      | some result =>
          refine .some fun _ => ?_
          obtain ⟨outcomeEq, afterSame⟩ := same.finishInvocation works result
          exact ⟨congrArg Answer.invoked outcomeEq, rfl, afterSame⟩

end Bridge.SameButModes

end ObjectBridge
