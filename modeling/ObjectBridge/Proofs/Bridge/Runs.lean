import ObjectBridge.Proofs.Bridge.Machine

/-!
# What runs consist of

A run that ends has gone through parts that ended as well.  Creations and calls
are taken apart here into the reaction to the request, the run of the body that
began with it, if any, and the end of that body.
-/

namespace ObjectBridge

variable {services : Services} {bridge after : Bridge}

/-- Two things done in order end if each does. -/
theorem Run.bind_eq_ok_iff {α β : Type} {first : Run α} {next : α → Run β} {result : β × Bridge} :
    (first >>= next) bridge = .ok result ↔
      ∃ answer middle, first bridge = .ok (answer, middle) ∧ next answer middle = .ok result := by
  simp only [bind, StateT.bind, Except.bind]
  cases first bridge with
  | error halt => simp
  | ok reached =>
      constructor
      · intro rest
        exact ⟨reached.1, reached.2, rfl, rest⟩
      · rintro ⟨_, _, reachedEq, rest⟩
        cases reachedEq
        exact rest

/-- Two things done in order halt if the first does, or if it ends and the second does. -/
theorem Run.bind_eq_error_iff {α β : Type} {first : Run α} {next : α → Run β} {halt : Halt} :
    (first >>= next) bridge = .error halt ↔
      first bridge = .error halt ∨
        ∃ answer middle, first bridge = .ok (answer, middle) ∧
          next answer middle = .error halt := by
  simp only [bind, StateT.bind, Except.bind]
  cases first bridge with
  | error other => simp
  | ok reached =>
      constructor
      · intro rest
        exact .inr ⟨reached.1, reached.2, rfl, rest⟩
      · rintro (absurdity | ⟨_, _, reachedEq, rest⟩)
        · contradiction
        · cases reachedEq
          exact rest

/-- What comes second depends on what the first comes to, not on how it gets there. -/
theorem Run.bind_congr {α β : Type} {first other : Run α} (same : first bridge = other after)
    (next : α → Run β) : (first >>= next) bridge = (other >>= next) after := by
  simp only [bind, StateT.bind, same]

/-- What is left to do, once the first thing is done. -/
theorem Run.bind_of_eq_ok {α β : Type} {first : Run α} {answer : α}
    (done : first bridge = .ok (answer, after)) (next : α → Run β) :
    (first >>= next) bridge = next answer after := by
  simp only [bind, StateT.bind, Except.bind, done]

theorem Run.get_bind {β : Type} (next : Bridge → Run β) :
    ((get : Run Bridge) >>= next) bridge = next bridge bridge := rfl

namespace Bridge

theorem runConstruction_eq_ok_iff {work : Construction} {mode : HandleMode}
    {outcome : Except BridgeError (Option Token)} :
    runConstruction services work mode bridge = .ok (outcome, after) ↔
      ∃ result ran effect,
        work.body.run services (fun state => nomatch state) bridge = .ok (result, ran) ∧
        ran.finishConstruction work mode result = (outcome, effect, after) := by
  rw [runConstruction, Run.bind_eq_ok_iff]
  refine exists_congr fun result => exists_congr fun ran => ?_
  rw [exists_and_left]
  refine and_congr_right fun _ => ?_
  cases result with
  | error raised =>
      constructor
      · intro finishes
        cases finishes
        exact ⟨_, rfl⟩
      · rintro ⟨_, finishes⟩
        cases finishes
        rfl
  | ok state =>
      constructor
      · intro finishes
        have pairEq := Except.ok.inj finishes
        have outcomeEq := congrArg Prod.fst pairEq
        have afterEq := congrArg Prod.snd pairEq
        exact ⟨_, Prod.ext outcomeEq (Prod.ext rfl afterEq)⟩
      · rintro ⟨_, finishes⟩
        simp only [finishConstruction, Prod.mk.injEq] at finishes
        exact congrArg Except.ok (Prod.ext finishes.1 finishes.2.2)

theorem runInvocation_eq_ok_iff {work : Invocation}
    {outcome : Except BridgeError (Option Value)} :
    runInvocation services work bridge = .ok (outcome, after) ↔
      bridge.store.running.contains work.receiver = false ∧
      ∃ result ran,
        work.body.run services (setState work.receiver) (bridge.enter work.receiver) =
          .ok (result, ran) ∧
        ran.finishInvocation work result = (outcome, after) := by
  rw [runInvocation, Run.get_bind]
  cases runs : bridge.store.running.contains work.receiver with
  | true =>
      rw [if_pos rfl]
      constructor
      · intro halts
        cases halts
      · rintro ⟨absurdity, _⟩
        contradiction
  | false =>
      rw [if_neg Bool.false_ne_true]
      constructor
      · intro guarded
        obtain ⟨_, entered, enters, bodyRan⟩ := Run.bind_eq_ok_iff.mp guarded
        cases enters
        obtain ⟨result, ran, bodyEq, leaves⟩ := Run.bind_eq_ok_iff.mp bodyRan
        exact ⟨rfl, result, ran, bodyEq, Except.ok.inj leaves⟩
      · rintro ⟨_, result, ran, bodyEq, finishes⟩
        refine Run.bind_eq_ok_iff.mpr ⟨(), bridge.enter work.receiver, rfl, ?_⟩
        exact Run.bind_eq_ok_iff.mpr ⟨result, ran, bodyEq, congrArg Except.ok finishes⟩

/-- A construction halts exactly if its body does. -/
theorem runConstruction_eq_error_iff {work : Construction} {mode : HandleMode} {halt : Halt} :
    runConstruction services work mode bridge = .error halt ↔
      work.body.run services (fun state => nomatch state) bridge = .error halt := by
  rw [runConstruction, Run.bind_eq_error_iff]
  refine or_iff_left ?_
  rintro ⟨result, ran, _, finishes⟩
  cases result <;> cases finishes

/-- An invocation halts if its receiver runs a method already, or if its body halts. -/
theorem runInvocation_eq_error_iff {work : Invocation} {halt : Halt} :
    runInvocation services work bridge = .error halt ↔
      (bridge.store.running.contains work.receiver = true ∧ halt = .reentered work.receiver) ∨
      (bridge.store.running.contains work.receiver = false ∧
        work.body.run services (setState work.receiver) (bridge.enter work.receiver) =
          .error halt) := by
  rw [runInvocation, Run.get_bind]
  cases runs : bridge.store.running.contains work.receiver with
  | true =>
      rw [if_pos rfl]
      constructor
      · intro halts
        cases halts
        exact .inl ⟨rfl, rfl⟩
      · rintro (⟨_, rfl⟩ | ⟨absurdity, _⟩)
        · rfl
        · contradiction
  | false =>
      rw [if_neg Bool.false_ne_true, Run.bind_eq_error_iff]
      constructor
      · rintro (absurdity | ⟨_, entered, enters, guarded⟩)
        · cases absurdity
        · cases enters
          rcases Run.bind_eq_error_iff.mp guarded with halts | ⟨_, _, _, leaves⟩
          · exact .inr ⟨rfl, halts⟩
          · cases leaves
      · rintro (⟨absurdity, _⟩ | ⟨_, halts⟩)
        · contradiction
        · refine .inr ⟨(), bridge.enter work.receiver, rfl, ?_⟩
          exact Run.bind_eq_error_iff.mpr (.inl halts)

/-- A creation is answered at once, or runs a constructor to its end. -/
theorem createWith_eq_ok_iff {typeName : String} {arguments : List Value} {mode : HandleMode}
    {outcome : Except BridgeError (Option Token)} :
    createWith services typeName arguments mode bridge = .ok (outcome, after) ↔
      bridge.react (.create typeName arguments mode) = .answered (.created outcome) .quiet after ∨
      ∃ work result ran effect,
        bridge.react (.create typeName arguments mode) = .begun (.construction work mode) bridge ∧
        work.body.run services (fun state => nomatch state) bridge = .ok (result, ran) ∧
        ran.finishConstruction work mode result = (outcome, effect, after) := by
  rw [createWith, Run.get_bind]
  cases found : bridge.registry.findType? typeName with
  | none =>
      simp only [react, found]
      constructor
      · intro told
        cases told
        exact .inl rfl
      · rintro (answered | ⟨_, _, _, _, begun, _⟩)
        · cases answered
          rfl
        · contradiction
  | some type =>
      cases prepared : prepareConstruction type arguments with
      | error cause =>
          simp only [react, found, prepared]
          constructor
          · intro refused
            cases refused
            exact .inl rfl
          · rintro (answered | ⟨_, _, _, _, begun, _⟩)
            · cases answered
              rfl
            · contradiction
      | ok work =>
          simp only [react, found, prepared, runConstruction_eq_ok_iff]
          constructor
          · rintro ⟨result, ran, effect, bodyEq, finishes⟩
            exact .inr ⟨work, result, ran, effect, rfl, bodyEq, finishes⟩
          · rintro (answered | ⟨_, result, ran, effect, begun, bodyEq, finishes⟩)
            · contradiction
            · cases begun
              exact ⟨result, ran, effect, bodyEq, finishes⟩

/-- A call is answered at once, or runs a method to its end. -/
theorem invokeWith_eq_ok_iff {token : Token} {method : String} {arguments : List Value}
    {outcome : Except BridgeError (Option Value)} :
    invokeWith services token method arguments bridge = .ok (outcome, after) ↔
      bridge.react (.invoke token method arguments) = .answered (.invoked outcome) .quiet after ∨
      ∃ work result ran,
        bridge.react (.invoke token method arguments) =
          .begun (.invocation work) (bridge.enter work.receiver) ∧
        work.body.run services (setState work.receiver) (bridge.enter work.receiver) =
          .ok (result, ran) ∧
        ran.finishInvocation work result = (outcome, after) := by
  rw [invokeWith, Run.get_bind]
  cases resolved : bridge.resolve token with
  | error error =>
      simp only [react, resolved]
      constructor
      · intro refused
        cases refused
        exact .inl rfl
      · rintro (answered | ⟨_, _, _, begun, _⟩)
        · cases answered
          rfl
        · contradiction
  | ok object =>
      cases prepared : prepareInvocation object method arguments with
      | error cause =>
          simp only [react, resolved, prepared]
          constructor
          · intro refused
            cases refused
            exact .inl rfl
          · rintro (answered | ⟨_, _, _, begun, _⟩)
            · cases answered
              rfl
            · contradiction
      | ok work =>
          simp only [react, resolved, prepared, runInvocation_eq_ok_iff]
          cases runs : bridge.store.running.contains work.receiver with
          | true => simp
          | false =>
              rw [if_neg Bool.false_ne_true]
              constructor
              · rintro ⟨_, result, ran, bodyEq, finishes⟩
                exact .inr ⟨work, result, ran, rfl, bodyEq, finishes⟩
              · rintro (answered | ⟨_, result, ran, begun, bodyEq, finishes⟩)
                · contradiction
                · cases begun
                  exact ⟨rfl, result, ran, bodyEq, finishes⟩

end Bridge

end ObjectBridge
