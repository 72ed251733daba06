import ObjectBridge.Proofs.Bridge.Host
import ObjectBridge.Proofs.Mode.Bridges

/-!
# Runs that differ in their modes

Two runs are the same but for modes if they come to the same answer on bridges that are
the same but for modes, and leave such bridges, as long as nothing is collected.  Bodies
that are the same but for modes run so, and so do creations in any two modes, at every
depth of nesting.
-/

namespace ObjectBridge

open Machine

/-- A run of the machine that ends without a collection began without one. -/
theorem Machine.Reaches.uncollected {first last : Machine} {history : List Effect}
    (reaches : Reaches first history last) (none : last.bridge.store.heap.collections = 0) :
    first.bridge.store.heap.collections = 0 := by
  induction reaches with
  | refl => exact none
  | tail _ step ih => exact ih (step.change.uncollected none).2

theorem Run.Hosted.uncollected {α : Type} {run : Run α} (hosted : run.Hosted)
    {bridge after : Bridge} {answer : α} (ran : run bridge = .ok (answer, after))
    (none : after.store.heap.collections = 0) : bridge.store.heap.collections = 0 := by
  obtain ⟨_, reaches⟩ := hosted.reaches ran
  exact reaches.uncollected none

/-! ## Runs -/

/-- Runs that come to the same on bridges that are the same but for modes, if nothing is
collected.  The first takes back no collection. -/
structure Run.SameButModes {α : Type} (first second : Run α) : Prop where
  earlier : ∀ {bridge answer after}, first bridge = .ok (answer, after) →
    after.store.heap.collections = 0 → bridge.store.heap.collections = 0
  follows : ∀ {bridge other answer after}, bridge.SameButModes other →
    first bridge = .ok (answer, after) → after.store.heap.collections = 0 →
    ∃ last, second other = .ok (answer, last) ∧ after.SameButModes last

namespace Run.SameButModes

variable {α β : Type}

theorem pure (answer : α) : SameButModes (Pure.pure answer : Run α) (Pure.pure answer) where
  earlier ran none := by
    cases ran
    exact none
  follows {_ other _ _} same ran _ := by
    cases ran
    exact ⟨other, rfl, same⟩

theorem bind {first second : Run α} {next otherNext : α → Run β}
    (start : SameButModes first second)
    (rest : ∀ answer, SameButModes (next answer) (otherNext answer)) :
    SameButModes (first >>= next) (second >>= otherNext) where
  earlier ran none := by
    obtain ⟨answer, middle, firstRan, restRan⟩ := Run.bind_eq_ok_iff.mp ran
    exact start.earlier firstRan ((rest answer).earlier restRan none)
  follows same ran none := by
    obtain ⟨answer, middle, firstRan, restRan⟩ := Run.bind_eq_ok_iff.mp ran
    obtain ⟨otherMiddle, secondRan, middleSame⟩ :=
      start.follows same firstRan ((rest answer).earlier restRan none)
    obtain ⟨last, otherRan, lastSame⟩ := (rest answer).follows middleSame restRan none
    exact ⟨last, Run.bind_eq_ok_iff.mpr ⟨_, _, secondRan, otherRan⟩, lastSame⟩

/-- A function of the bridge that leaves the count of collections alone and does alike on
bridges that are the same but for modes. -/
theorem modifyGet {change : Bridge → α × Bridge}
    (collectionsEq : ∀ bridge, (change bridge).2.store.heap.collections =
      bridge.store.heap.collections)
    (alike : ∀ {bridge other : Bridge}, bridge.SameButModes other →
      (change bridge).1 = (change other).1 ∧ (change bridge).2.SameButModes (change other).2) :
    SameButModes (MonadStateOf.modifyGet change : Run α) (MonadStateOf.modifyGet change) where
  earlier {bridge _ _} ran none := by
    have pairEq := Except.ok.inj ran
    have countEq := collectionsEq bridge
    rw [pairEq] at countEq
    exact countEq.symm.trans none
  follows {bridge other _ _} same ran _ := by
    have pairEq := Except.ok.inj ran
    obtain ⟨answerEq, afterSame⟩ := alike same
    rw [pairEq] at answerEq afterSame
    exact ⟨(change other).2, congrArg Except.ok (Prod.ext answerEq.symm rfl), afterSame⟩

/-- Reading what bridges that are the same but for modes agree on. -/
theorem read {view : Bridge → β} (views : ∀ {bridge other : Bridge}, bridge.SameButModes other →
      view bridge = view other)
    {next otherNext : β → Run α} (rest : ∀ seen, SameButModes (next seen) (otherNext seen)) :
    SameButModes (get >>= fun bridge => next (view bridge))
      (get >>= fun bridge => otherNext (view bridge)) where
  earlier {bridge _ _} ran none := (rest (view bridge)).earlier ran none
  follows {bridge other _ _} same ran none := by
    obtain ⟨last, otherRan, lastSame⟩ := (rest (view bridge)).follows same ran none
    rw [views same] at otherRan
    exact ⟨last, otherRan, lastSame⟩

/-- Nothing is said of runs that collect. -/
theorem collect {next otherNext : CollectSummary → Run α}
    (rest : ∀ summary, SameButModes (next summary) (otherNext summary)) :
    SameButModes (MonadStateOf.modifyGet Bridge.collect >>= next)
      (MonadStateOf.modifyGet Bridge.collect >>= otherNext) := by
  have collects {bridge : Bridge} {answer : α} {after : Bridge}
      (ran : next bridge.collect.1 bridge.collect.2 = .ok (answer, after))
      (none : after.store.heap.collections = 0) : False := by
    have change : bridge.store.Change .collected bridge.store.collect.2 := .collected
    exact Bool.noConfusion (change.uncollected ((rest _).earlier ran none)).1
  constructor
  · intro bridge answer after ran none
    exact (collects ran none).elim
  · intro bridge other answer after same ran none
    exact (collects ran none).elim

end Run.SameButModes

/-! ## Bodies -/

/-- Services that do not look at modes. -/
structure Services.IgnoreModes (services : Services) : Prop where
  create : ∀ typeName arguments mode otherMode,
    Run.SameButModes (services.create typeName arguments mode)
      (services.create typeName arguments otherMode)
  invoke : ∀ token method arguments,
    Run.SameButModes (services.invoke token method arguments)
      (services.invoke token method arguments)

variable {services : Services}

theorem sameButModes_destroy (token : Token) :
    Run.SameButModes (modifyGet fun bridge => bridge.destroy token)
      (modifyGet fun bridge => bridge.destroy token) := by
  refine .modifyGet (fun bridge => ?_) fun {bridge other} same => ?_
  · rw [Bridge.destroy]
    cases released : bridge.store.release token with
    | ok store =>
        obtain ⟨_, _, _, _, storeEq⟩ := Store.exists_of_release released
        exact congrArg (fun store => store.heap.collections) storeEq
    | error cause => rfl
  · rw [Bridge.destroy, Bridge.destroy]
    rcases (same.store.release token).error_or_ok with
      ⟨cause, firstEq, secondEq⟩ | ⟨firstAfter, secondAfter, firstEq, secondEq, stores⟩
    · rw [firstEq, secondEq]
      exact ⟨rfl, same⟩
    · rw [firstEq, secondEq]
      exact ⟨rfl, same.with_store stores⟩

private theorem sameButModes_draw :
    let draw (bridge : Bridge) := (bridge.drawn + 1, { bridge with drawn := bridge.drawn + 1 })
    Run.SameButModes (modifyGet draw) (modifyGet draw) :=
  .modifyGet (fun _ => rfl) fun same =>
    ⟨congrArg Nat.succ same.drawn_eq, same.registry, same.calls_eq, same.store, same.reports_eq,
      congrArg Nat.succ same.drawn_eq⟩

private theorem sameButModes_setState (id : ObjectId) (state : ObjectState) :
    Run.SameButModes (modify (Bridge.setState id state)) (modify (Bridge.setState id state)) :=
  .modifyGet (fun _ => rfl) fun same => ⟨rfl, same.setState id state⟩

/-- Bodies that are the same but for modes run so. -/
theorem Services.IgnoreModes.run (ignore : services.IgnoreModes) {σ α : Type}
    {save : σ → Bridge → Bridge}
    (saves : ∀ state, Run.SameButModes (modify (save state)) (modify (save state)))
    {body other : Program σ α} (same : body.SameButModes other) :
    Run.SameButModes (body.run services save) (other.run services save) := by
  induction same with
  | done value => exact .pure _
  | fault raised => exact .pure _
  | panic payload => exact .pure _
  | write state _ ih => exact (saves state).bind fun _ => ih
  | create typeName arguments mode otherMode _ ih =>
      exact (ignore.create typeName arguments mode otherMode).bind ih
  | invoke token method arguments _ ih => exact (ignore.invoke token method arguments).bind ih
  | destroy token _ ih => exact (sameButModes_destroy token).bind ih
  | collect _ ih => exact .collect ih
  | internalCall className member moduleName _ ih =>
      exact .read
        (fun same => congrArg (CallTable.internalCall? · className member moduleName) same.calls_eq)
        ih
  | draw _ ih => exact sameButModes_draw.bind ih

private theorem Services.IgnoreModes.createWith (ignore : services.IgnoreModes)
    {typeName : String} {arguments : List Value} {mode otherMode : HandleMode}
    {first second after : Bridge} {outcome : Except BridgeError (Option Token)}
    (same : first.SameButModes second)
    (created : Bridge.createWith services typeName arguments mode first = .ok (outcome, after))
    (none : after.store.heap.collections = 0) :
    ∃ last,
      Bridge.createWith services typeName arguments otherMode second = .ok (outcome, last) ∧
      after.SameButModes last := by
  have reactions := same.react (.create typeName arguments mode otherMode)
  generalize secondEq : second.react (.create typeName arguments otherMode) = reaction
    at reactions
  rcases Bridge.createWith_eq_ok_iff.mp created with
    answered | ⟨work, result, ran, effect, begun, bodyRan, finishes⟩
  · rw [answered] at reactions
    cases reactions with
    | answered alike =>
        obtain ⟨rfl, rfl, lastSame⟩ := alike rfl
        exact ⟨_, Bridge.createWith_eq_ok_iff.mpr (.inl secondEq), lastSame⟩
  · rw [begun] at reactions
    cases reactions with
    | begun frames _ =>
        cases frames with
        | @construction _ other _ _ works =>
            cases Bridge.begins_of_react secondEq with
            | construction =>
                obtain ⟨keeps, earlier⟩ :=
                  (Bridge.change_of_finishConstruction finishes).1.uncollected none
                obtain ⟨otherRan, otherBodyRan, ranSame⟩ :=
                  (ignore.run (fun state => state.elim) works.body).follows same bodyRan earlier
                have ends := ranSame.finishConstruction works mode otherMode result
                rw [finishes] at ends
                obtain ⟨outcomeEq, _, lastSame⟩ := ends keeps
                exact ⟨(otherRan.finishConstruction other otherMode result).2.2,
                  Bridge.createWith_eq_ok_iff.mpr (.inr ⟨other, result, otherRan, _, secondEq,
                    otherBodyRan, Prod.ext outcomeEq.symm rfl⟩), lastSame⟩

private theorem Services.IgnoreModes.invokeWith (ignore : services.IgnoreModes) {token : Token}
    {method : String} {arguments : List Value} {first second after : Bridge}
    {outcome : Except BridgeError (Option Value)} (same : first.SameButModes second)
    (invoked : Bridge.invokeWith services token method arguments first = .ok (outcome, after))
    (none : after.store.heap.collections = 0) :
    ∃ last, Bridge.invokeWith services token method arguments second = .ok (outcome, last) ∧
      after.SameButModes last := by
  have reactions := same.react (.invoke token method arguments)
  generalize secondEq : second.react (.invoke token method arguments) = reaction at reactions
  rcases Bridge.invokeWith_eq_ok_iff.mp invoked with
    answered | ⟨work, result, ran, begun, bodyRan, finishes⟩
  · rw [answered] at reactions
    cases reactions with
    | answered alike =>
        obtain ⟨rfl, rfl, lastSame⟩ := alike rfl
        exact ⟨_, Bridge.invokeWith_eq_ok_iff.mpr (.inl secondEq), lastSame⟩
  · rw [begun] at reactions
    cases reactions with
    | begun frames entered =>
        cases frames with
        | @invocation _ other works =>
            cases Bridge.begins_of_react secondEq with
            | invocation =>
                cases finishes
                have leaves : ran.store.Change .quiet ran.store.leave := .left
                obtain ⟨otherRan, otherBodyRan, ranSame⟩ :=
                  (ignore.run (sameButModes_setState work.receiver) works.body).follows entered
                    bodyRan (leaves.uncollected none).2
                obtain ⟨outcomeEq, lastSame⟩ := ranSame.finishInvocation works result
                rw [works.receiver_eq] at otherBodyRan
                exact ⟨(otherRan.finishInvocation other result).2,
                  Bridge.invokeWith_eq_ok_iff.mpr (.inr ⟨other, result, otherRan, secondEq,
                    otherBodyRan, Prod.ext outcomeEq.symm rfl⟩), lastSame⟩

/-- The services of every depth ignore modes. -/
theorem Bridge.services_ignoreModes (depth : Nat) : (Bridge.services depth).IgnoreModes := by
  induction depth with
  | zero =>
      have closed := (services_faithful 0).closed
      refine ⟨fun _ _ _ _ => ⟨(closed.create _ _ _).uncollected, ?_⟩,
        fun _ _ _ => ⟨(closed.invoke _ _ _).uncollected, ?_⟩⟩
      · intro _ _ _ _ _ created
        cases created
      · intro _ _ _ _ _ invoked
        cases invoked
  | succ depth ih =>
      have closed := (services_faithful (depth + 1)).closed
      exact ⟨fun _ _ _ _ => ⟨(closed.create _ _ _).uncollected, ih.createWith⟩,
        fun _ _ _ => ⟨(closed.invoke _ _ _).uncollected, ih.invokeWith⟩⟩

end ObjectBridge
