import ObjectBridge.Proofs.Bridge.Host
import ObjectBridge.Proofs.Twin.Bridges

/-!
# Collections cannot be observed through owning handles

Two runs are blind to collections if they come to the same answer on twin bridges
and leave twin bridges, as long as no weak handle is issued.  Bodies that are the
same but for collections are, and so are operations of a host that differ only in
collections, whatever the thresholds at which the heaps collect by themselves.
-/

namespace ObjectBridge

/-! ## Blind runs -/

/-- Runs that come to the same on twins, as long as no weak handle is issued.  Neither
rewrites the journal. -/
structure Run.Blind {α : Type} (first second : Run α) : Prop where
  grows : ∀ {bridge answer after}, first bridge = .ok (answer, after) →
    ∃ events, after.store.journal = bridge.store.journal ++ events
  twin : ∀ {bridge other answer after}, bridge.Twin other →
    first bridge = .ok (answer, after) → after.OwningOnly →
    ∃ last, second other = .ok (answer, last) ∧ after.Twin last

namespace Run.Blind

variable {α β : Type}

theorem pure (answer : α) : Blind (Pure.pure answer : Run α) (Pure.pure answer) where
  grows {bridge _ _} ran := by
    cases ran
    exact ⟨#[], by rw [Array.append_empty]⟩
  twin {_ other _ _} twin ran _ := by
    cases ran
    exact ⟨other, rfl, twin⟩

theorem bind {first second : Run α} {next otherNext : α → Run β} (start : Blind first second)
    (rest : ∀ answer, Blind (next answer) (otherNext answer)) :
    Blind (first >>= next) (second >>= otherNext) where
  grows ran := by
    obtain ⟨answer, middle, firstRan, restRan⟩ := Run.bind_eq_ok_iff.mp ran
    obtain ⟨early, earlyEq⟩ := start.grows firstRan
    obtain ⟨late, lateEq⟩ := (rest answer).grows restRan
    exact ⟨early ++ late, by rw [lateEq, earlyEq, Array.append_assoc]⟩
  twin twin ran owning := by
    obtain ⟨answer, middle, firstRan, restRan⟩ := Run.bind_eq_ok_iff.mp ran
    obtain ⟨late, lateEq⟩ := (rest answer).grows restRan
    obtain ⟨otherMiddle, secondRan, middleTwin⟩ :=
      start.twin twin firstRan (owning.of_journal_eq lateEq)
    obtain ⟨last, otherRan, lastTwin⟩ := (rest answer).twin middleTwin restRan owning
    exact ⟨last, Run.bind_eq_ok_iff.mpr ⟨_, _, secondRan, otherRan⟩, lastTwin⟩

/-- A function of the bridge that only adds to the journal and does alike on twins. -/
theorem modifyGet {change : Bridge → α × Bridge}
    (grows : ∀ bridge, ∃ events,
      (change bridge).2.store.journal = bridge.store.journal ++ events)
    (alike : ∀ {bridge other : Bridge}, bridge.Twin other →
      (change bridge).1 = (change other).1 ∧ (change bridge).2.Twin (change other).2) :
    Blind (MonadStateOf.modifyGet change : Run α) (MonadStateOf.modifyGet change) where
  grows {bridge _ _} ran := by
    have pairEq := Except.ok.inj ran
    obtain ⟨events, journalEq⟩ := grows bridge
    rw [pairEq] at journalEq
    exact ⟨events, journalEq⟩
  twin {bridge other _ _} twin ran _ := by
    have pairEq := Except.ok.inj ran
    obtain ⟨answerEq, afterTwin⟩ := alike twin
    rw [pairEq] at answerEq afterTwin
    exact ⟨(change other).2, congrArg Except.ok (Prod.ext answerEq.symm rfl), afterTwin⟩

/-- Reading what twins agree on. -/
theorem read {view : Bridge → β} (views : ∀ {bridge other : Bridge}, bridge.Twin other →
      view bridge = view other)
    {next otherNext : β → Run α} (rest : ∀ seen, Blind (next seen) (otherNext seen)) :
    Blind (get >>= fun bridge => next (view bridge))
      (get >>= fun bridge => otherNext (view bridge)) where
  grows {bridge _ _} ran := (rest (view bridge)).grows ran
  twin {bridge other _ _} twin ran owning := by
    obtain ⟨last, otherRan, lastTwin⟩ := (rest (view bridge)).twin twin ran owning
    rw [views twin] at otherRan
    exact ⟨last, otherRan, lastTwin⟩

theorem collect_left {next : CollectSummary → Run α} {second : Run α}
    (rest : ∀ summary, Blind (next summary) second) :
    Blind (MonadStateOf.modifyGet Bridge.collect >>= next) second where
  grows {bridge _ _} ran := by
    obtain ⟨_, _, early, _, collectEq⟩ := bridge.store.collect_eq
    obtain ⟨late, lateEq⟩ := (rest _).grows ran
    refine ⟨early ++ late, ?_⟩
    rw [lateEq, ← Array.append_assoc]
    exact congrArg (·.journal ++ late) collectEq
  twin twin ran owning := (rest _).twin twin.collect_left ran owning

theorem collect_right {first : Run α} {next : CollectSummary → Run α}
    (rest : ∀ summary, Blind first (next summary)) :
    Blind first (MonadStateOf.modifyGet Bridge.collect >>= next) where
  grows ran := (rest ⟨0, 0⟩).grows ran
  twin twin ran owning := (rest _).twin twin.collect_right ran owning

end Run.Blind

/-! ## Bodies -/

/-- Services that are blind to collections. -/
structure Services.Blind (services : Services) : Prop where
  create : ∀ typeName arguments mode,
    Run.Blind (services.create typeName arguments mode) (services.create typeName arguments mode)
  invoke : ∀ token method arguments,
    Run.Blind (services.invoke token method arguments) (services.invoke token method arguments)

variable {services : Services}

theorem blind_destroy (token : Token) :
    Run.Blind (modifyGet fun bridge => bridge.destroy token)
      (modifyGet fun bridge => bridge.destroy token) := by
  refine .modifyGet (fun bridge => ?_) fun twin => twin.destroy token
  rw [Bridge.destroy]
  cases released : bridge.store.release token with
  | ok store =>
      obtain ⟨_, _, _, _, storeEq⟩ := Store.exists_of_release released
      exact ⟨#[_], congrArg Store.journal storeEq⟩
  | error cause => exact ⟨#[], by rw [Array.append_empty]⟩

private theorem blind_draw :
    let draw (bridge : Bridge) := (bridge.drawn + 1, { bridge with drawn := bridge.drawn + 1 })
    Run.Blind (modifyGet draw) (modifyGet draw) :=
  .modifyGet (fun bridge => ⟨#[], by rw [Array.append_empty]⟩) fun twin =>
    ⟨congrArg Nat.succ twin.drawn_eq,
      ⟨twin.registry, twin.calls_eq, twin.store, twin.reports_eq, congrArg Nat.succ twin.drawn_eq⟩⟩

/-- Bodies that are the same but for collections run alike on twins. -/
theorem Services.Blind.run (blind : services.Blind) {σ α : Type} {save : σ → Bridge → Bridge}
    (saves : ∀ state, Run.Blind (modify (save state)) (modify (save state)))
    {body other : Program σ α} (same : body.SameButCollections other) :
    Run.Blind (body.run services save) (other.run services save) := by
  induction same with
  | done value => exact .pure _
  | fault raised => exact .pure _
  | panic payload => exact .pure _
  | write state _ ih => exact (saves state).bind fun _ => ih
  | create typeName arguments mode _ ih => exact (blind.create typeName arguments mode).bind ih
  | invoke token method arguments _ ih => exact (blind.invoke token method arguments).bind ih
  | destroy token _ ih => exact (blind_destroy token).bind ih
  | internalCall className member moduleName _ ih =>
      exact .read
        (fun twin => congrArg (CallTable.internalCall? · className member moduleName) twin.calls_eq)
        ih
  | draw _ ih => exact blind_draw.bind ih
  | collectLeft _ ih => exact .collect_left ih
  | collectRight _ ih => exact .collect_right ih

private theorem Services.Blind.createWith (blind : services.Blind) {typeName : String}
    {arguments : List Value} {mode : HandleMode} {first second after : Bridge}
    {outcome : Except BridgeError (Option Token)} (twin : first.Twin second)
    (created : Bridge.createWith services typeName arguments mode first = .ok (outcome, after))
    (owning : after.OwningOnly) :
    ∃ last, Bridge.createWith services typeName arguments mode second = .ok (outcome, last) ∧
      after.Twin last := by
  rcases twin.react_create typeName arguments mode with
    ⟨answer, firstAfter, last, firstEq, secondEq, lastTwin⟩ |
    ⟨work, other, firstEq, secondEq, same⟩
  · rcases Bridge.createWith_eq_ok_iff.mp created with answered | ⟨_, _, _, _, begun, _⟩
    · rw [firstEq] at answered
      cases answered
      exact ⟨last, Bridge.createWith_eq_ok_iff.mpr (.inl secondEq), lastTwin⟩
    · rw [firstEq] at begun
      contradiction
  · rcases Bridge.createWith_eq_ok_iff.mp created with
      answered | ⟨_, result, ran, effect, begun, bodyRan, finishes⟩
    · rw [firstEq] at answered
      contradiction
    · rw [firstEq] at begun
      cases begun
      obtain ⟨events, journalEq⟩ := (Bridge.change_of_finishConstruction finishes).1.grows.2
      obtain ⟨otherRan, otherBodyRan, ranTwin⟩ :=
        (blind.run (fun state => state.elim) same.body).twin twin bodyRan
          (owning.of_journal_eq journalEq)
      obtain ⟨otherEffect, last, otherFinishes, lastTwin⟩ :=
        ranTwin.finishConstruction same finishes owning
      exact ⟨last, Bridge.createWith_eq_ok_iff.mpr
        (.inr ⟨other, result, otherRan, otherEffect, secondEq, otherBodyRan, otherFinishes⟩),
        lastTwin⟩

private theorem blind_setState (id : ObjectId) (state : ObjectState) :
    Run.Blind (modify (Bridge.setState id state)) (modify (Bridge.setState id state)) :=
  .modifyGet (fun _ => ⟨#[], (Array.append_empty).symm⟩) fun twin =>
    ⟨rfl, twin.with_store (twin.store.setState id state)⟩

private theorem Services.Blind.invokeWith (blind : services.Blind) {token : Token}
    {method : String} {arguments : List Value} {first second after : Bridge}
    {outcome : Except BridgeError (Option Value)} (twin : first.Twin second)
    (invoked : Bridge.invokeWith services token method arguments first = .ok (outcome, after))
    (owning : after.OwningOnly) :
    ∃ last, Bridge.invokeWith services token method arguments second = .ok (outcome, last) ∧
      after.Twin last := by
  rcases twin.react_invoke token method arguments with
    ⟨answer, firstEq, secondEq⟩ | ⟨object, firstEq, _⟩ |
    ⟨work, other, firstEq, secondEq, same, referenced⟩
  · rcases Bridge.invokeWith_eq_ok_iff.mp invoked with answered | ⟨_, _, _, begun, _⟩
    · rw [firstEq] at answered
      cases answered
      exact ⟨second, Bridge.invokeWith_eq_ok_iff.mpr (.inl secondEq), twin⟩
    · rw [firstEq] at begun
      contradiction
  · rcases Bridge.invokeWith_eq_ok_iff.mp invoked with answered | ⟨_, _, _, begun, _⟩
    · rw [firstEq] at answered
      contradiction
    · rw [firstEq] at begun
      contradiction
  · rcases Bridge.invokeWith_eq_ok_iff.mp invoked with
      answered | ⟨_, result, ran, begun, bodyRan, finishes⟩
    · rw [firstEq] at answered
      contradiction
    · rw [firstEq] at begun
      cases begun
      have leaves : ran.store.Change .quiet ran.store.leave := .left
      obtain ⟨events, journalEq⟩ := leaves.grows.2
      have afterEq : ran.leave = after := congrArg Prod.snd finishes
      have ranOwning : ran.OwningOnly := (afterEq ▸ owning).of_journal_eq journalEq
      have entered : (first.enter work.receiver).Twin (second.enter work.receiver) :=
        twin.with_store (twin.store.enter referenced)
      have bodies : Run.Blind (work.body.run services (Bridge.setState work.receiver))
          (other.body.run services (Bridge.setState work.receiver)) :=
        blind.run (blind_setState work.receiver) same.body
      obtain ⟨otherRan, otherBodyRan, ranTwin⟩ := bodies.twin entered bodyRan ranOwning
      obtain ⟨outcomeEq, leftTwin⟩ := ranTwin.finishInvocation same result
      rw [same.receiver_eq] at otherBodyRan
      rw [finishes] at outcomeEq leftTwin
      exact ⟨(otherRan.finishInvocation other result).2, Bridge.invokeWith_eq_ok_iff.mpr
        (.inr ⟨other, result, otherRan, secondEq, otherBodyRan, Prod.ext outcomeEq.symm rfl⟩),
        leftTwin⟩

private theorem Services.Faithful.create_grows (faithful : services.Faithful)
    {typeName : String} {arguments : List Value} {mode : HandleMode} {bridge after : Bridge}
    {outcome : Except BridgeError (Option Token)}
    (created : services.create typeName arguments mode bridge = .ok (outcome, after)) :
    ∃ events, after.store.journal = bridge.store.journal ++ events := by
  obtain ⟨_, reaches⟩ := (faithful.closed.create typeName arguments mode).reaches created
  exact reaches.journal_eq

private theorem Services.Faithful.invoke_grows (faithful : services.Faithful) {token : Token}
    {method : String} {arguments : List Value} {bridge after : Bridge}
    {outcome : Except BridgeError (Option Value)}
    (invoked : services.invoke token method arguments bridge = .ok (outcome, after)) :
    ∃ events, after.store.journal = bridge.store.journal ++ events := by
  obtain ⟨_, reaches⟩ := (faithful.closed.invoke token method arguments).reaches invoked
  exact reaches.journal_eq

/-- The services of every depth are blind to collections. -/
theorem Bridge.services_blind (depth : Nat) : (Bridge.services depth).Blind := by
  induction depth with
  | zero =>
      have faithful := services_faithful 0
      refine ⟨fun _ _ _ => ⟨faithful.create_grows, ?_⟩, fun _ _ _ => ⟨faithful.invoke_grows, ?_⟩⟩
      · intro _ _ _ _ _ created
        cases created
      · intro _ _ _ _ _ invoked
        cases invoked
  | succ depth ih =>
      have faithful := services_faithful (depth + 1)
      exact ⟨fun _ _ _ => ⟨faithful.create_grows, ih.createWith⟩,
        fun _ _ _ => ⟨faithful.invoke_grows, ih.invokeWith⟩⟩

end ObjectBridge
