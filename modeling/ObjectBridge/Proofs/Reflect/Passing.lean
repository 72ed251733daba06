import Mathlib.Data.List.Forall2
import ObjectBridge.Proofs.Value.Coercion
import ObjectBridge.Reflect.Dispatch

/-!
# Passing arguments

Two rules decide whether a call goes through: which arguments may be passed for their
parameters, and which overloads fit.  They are written apart from each other, and here
they are shown to agree.  Binding passes each argument for its own parameter, or names
the first one that cannot be passed; and an overload that is selected never fails to
bind.
-/

namespace ObjectBridge

/-- Arguments as a body receives them: one for each parameter, in order, which is the
argument at its position as the parameter receives it, and so is of its kind. -/
structure Passed (parameters : List Kind) (arguments received : List Value) : Prop where
  length_eq : received.length = parameters.length
  length_arguments_eq : arguments.length = parameters.length
  received_eq : ∀ (index : Nat) (parameter : Kind), parameters[index]? = some parameter →
    ∃ argument passed : Value, arguments[index]? = some argument ∧ received[index]? = some passed ∧
      argument.coerce parameter = some passed ∧ passed.kind = parameter

/-- The first position whose argument may not be passed for its parameter, with the
declared kind and the kind of the argument. -/
structure FirstMismatch (parameters kinds : List Kind) (position : Nat) (expected got : Kind) :
    Prop where
  expected_eq : parameters[position]? = some expected
  got_eq : kinds[position]? = some got
  narrow : got.widensTo expected = false
  earlier : ∀ (index : Nat) (parameter kind : Kind), index < position →
    parameters[index]? = some parameter → kinds[index]? = some kind →
    kind.widensTo parameter = true

variable {parameters kinds : List Kind} {arguments received : List Value} {target : String}
  {start position : Nat} {expected got : Kind}

theorem passed_nil : Passed [] [] [] where
  length_eq := rfl
  length_arguments_eq := rfl
  received_eq _ _ absent := nomatch absent

theorem Passed.cons (passed : Passed parameters arguments received) {parameter : Kind}
    {argument value : Value} (passes : argument.coerce parameter = some value) :
    Passed (parameter :: parameters) (argument :: arguments) (value :: received) where
  length_eq := congrArg Nat.succ passed.length_eq
  length_arguments_eq := congrArg Nat.succ passed.length_arguments_eq
  received_eq
    | 0, _, here => by
        cases here
        exact ⟨argument, value, rfl, rfl, passes, Value.kind_of_coerce passes⟩
    | index + 1, other, there => passed.received_eq index other there

/-- If every argument may be passed for its parameter, binding passes them all. -/
theorem exists_bindFrom
    (widens : List.Forall₂ (fun parameter (argument : Value) =>
      argument.kind.widensTo parameter = true) parameters arguments) :
    ∃ received, bindFrom target start parameters arguments = .ok received ∧
      Passed parameters arguments received := by
  induction widens generalizing start with
  | nil => exact ⟨[], rfl, passed_nil⟩
  | cons here _ ih =>
      obtain ⟨value, passes, _⟩ := Value.exists_coerce here
      obtain ⟨rest, restEq, passed⟩ := @ih (start + 1)
      exact ⟨value :: rest, by rw [bindFrom, passes, restEq]; rfl, passed.cons passes⟩

/-- What binding comes to, passes every argument for its own parameter. -/
theorem passed_of_bindFrom (lengthEq : arguments.length = parameters.length)
    (bound : bindFrom target start parameters arguments = .ok received) :
    Passed parameters arguments received := by
  induction parameters generalizing start arguments received with
  | nil =>
      rw [List.length_nil, List.length_eq_zero_iff] at lengthEq
      subst lengthEq
      cases bound
      exact passed_nil
  | cons parameter parameters ih =>
      cases arguments with
      | nil => contradiction
      | cons argument arguments =>
          cases passes : argument.coerce parameter with
          | none =>
              rw [bindFrom, passes] at bound
              contradiction
          | some value =>
              rw [bindFrom, passes] at bound
              cases restBound : bindFrom target (start + 1) parameters arguments with
              | error cause =>
                  rw [restBound] at bound
                  contradiction
              | ok rest =>
                  rw [restBound] at bound
                  cases bound
                  exact (ih (Nat.succ.inj lengthEq) restBound).cons passes

/-- The first mismatch is at the first position, or it is that of the rest. -/
theorem firstMismatch_cons_iff {parameter kind : Kind} :
    FirstMismatch (parameter :: parameters) (kind :: kinds) position expected got ↔
      (kind.widensTo parameter = false ∧ position = 0 ∧ expected = parameter ∧ got = kind) ∨
      (kind.widensTo parameter = true ∧
        ∃ later, position = later + 1 ∧ FirstMismatch parameters kinds later expected got) := by
  constructor
  · intro mismatch
    cases position with
    | zero =>
        cases mismatch.expected_eq
        cases mismatch.got_eq
        exact .inl ⟨mismatch.narrow, rfl, rfl, rfl⟩
    | succ later =>
        have widens := mismatch.earlier 0 parameter kind (Nat.succ_pos later) rfl rfl
        have rest : FirstMismatch parameters kinds later expected got :=
          ⟨mismatch.expected_eq, mismatch.got_eq, mismatch.narrow,
            fun index other otherKind before =>
              mismatch.earlier (index + 1) other otherKind (Nat.succ_lt_succ before)⟩
        exact .inr ⟨widens, later, rfl, rest⟩
  · rintro (⟨narrow, rfl, rfl, rfl⟩ | ⟨widens, later, rfl, mismatch⟩)
    · exact ⟨rfl, rfl, narrow, fun _ _ _ before => absurd before (Nat.not_lt_zero _)⟩
    · refine ⟨mismatch.expected_eq, mismatch.got_eq, mismatch.narrow, ?_⟩
      intro index other otherKind before there otherThere
      cases index with
      | zero =>
          cases there
          cases otherThere
          exact widens
      | succ index =>
          have beforeRest := Nat.lt_of_succ_lt_succ before
          exact mismatch.earlier index other otherKind beforeRest there otherThere

/-- Binding fails exactly at the first argument that may not be passed. -/
theorem bindFrom_eq_error_iff {cause : DispatchError} :
    bindFrom target start parameters arguments = .error cause ↔
      ∃ position expected got,
        FirstMismatch parameters (arguments.map Value.kind) position expected got ∧
        cause = .argumentMismatch target (start + position) expected got := by
  induction parameters generalizing start arguments with
  | nil =>
      rw [bindFrom.eq_def]
      constructor
      · intro bound
        contradiction
      · rintro ⟨position, _, _, mismatch, _⟩
        cases mismatch.expected_eq
  | cons parameter parameters ih =>
      cases arguments with
      | nil =>
          rw [bindFrom.eq_def]
          constructor
          · intro bound
            contradiction
          · rintro ⟨position, _, _, mismatch, _⟩
            cases mismatch.got_eq
      | cons argument arguments =>
          simp only [bindFrom, List.map_cons, firstMismatch_cons_iff]
          cases passes : argument.coerce parameter with
          | none =>
              have narrow := Value.coerce_eq_none_iff.mp passes
              simp [narrow, eq_comm]
          | some value =>
              have widens : argument.kind.widensTo parameter = true := by
                rw [← Bool.not_eq_false, ← Value.coerce_eq_none_iff, passes]
                exact Option.some_ne_none value
              have restFails : (bindFrom target (start + 1) parameters arguments).map (value :: ·) =
                  .error cause ↔
                    bindFrom target (start + 1) parameters arguments = .error cause := by
                cases bindFrom target (start + 1) parameters arguments <;> simp [Except.map]
              simp only [restFails, ih, widens, Bool.true_eq_false, false_and, false_or, true_and]
              constructor
              · rintro ⟨later, expected, got, mismatch, rfl⟩
                refine ⟨later + 1, expected, got, ⟨later, rfl, mismatch⟩, ?_⟩
                rw [Nat.add_assoc, Nat.add_comm 1]
              · rintro ⟨_, expected, got, ⟨later, rfl, mismatch⟩, rfl⟩
                refine ⟨later, expected, got, mismatch, ?_⟩
                rw [Nat.add_assoc, Nat.add_comm 1]

/-- Binding names the first argument that may not be passed, with the kind that is
declared for it and its own. -/
theorem bindArguments_eq_argumentMismatch_iff {named : String} :
    bindArguments target parameters arguments =
        .error (.argumentMismatch named position expected got) ↔
      named = target ∧
        FirstMismatch parameters (arguments.map Value.kind) position expected got := by
  rw [bindArguments, bindFrom_eq_error_iff]
  simp only [Nat.zero_add, DispatchError.argumentMismatch.injEq]
  constructor
  · rintro ⟨_, _, _, mismatch, rfl, rfl, rfl, rfl⟩
    exact ⟨rfl, mismatch⟩
  · rintro ⟨rfl, mismatch⟩
    exact ⟨_, _, _, mismatch, rfl, rfl, rfl, rfl⟩

/-- There is a first mismatch if there is any. -/
theorem exists_firstMismatch_iff :
    (∃ position expected got, FirstMismatch parameters kinds position expected got) ↔
      ∃ (position : Nat) (expected got : Kind), parameters[position]? = some expected ∧
        kinds[position]? = some got ∧ got.widensTo expected = false := by
  constructor
  · rintro ⟨position, expected, got, mismatch⟩
    exact ⟨position, expected, got, mismatch.expected_eq, mismatch.got_eq, mismatch.narrow⟩
  · rintro ⟨position, expected, got, expectedEq, gotEq, narrow⟩
    induction position using Nat.strongRecOn generalizing expected got with
    | ind position ih =>
        by_cases earlier : ∀ (index : Nat) (parameter kind : Kind), index < position →
            parameters[index]? = some parameter → kinds[index]? = some kind →
            kind.widensTo parameter = true
        · exact ⟨position, expected, got, expectedEq, gotEq, narrow, earlier⟩
        · push Not at earlier
          obtain ⟨index, parameter, kind, before, parameterEq, kindEq, notWidens⟩ := earlier
          exact ih index before parameter kind parameterEq kindEq
            (Bool.eq_false_iff.mpr notWidens)

end ObjectBridge
