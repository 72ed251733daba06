import ObjectBridge.Proofs.Reflect.Passing

/-!
# Selected members fit

Overload resolution looks at kinds, and binding converts values.  Whatever
constructor resolution selects, it was declared, has as many parameters as the
call has arguments, and lets every argument be passed, so binding to it succeeds.
A method is selected without a look at kinds; it has the right number of
parameters, and binding finds the first argument that does not fit, if any.
-/

namespace ObjectBridge

/-- Whether every argument may be passed for the parameter at its position, with none
left over on either side. -/
abbrev Fits (parameters kinds : List Kind) : Prop :=
  List.Forall₂ (fun parameter kind : Kind => kind.widensTo parameter = true) parameters kinds

variable {parameters kinds : List Kind}

/-- Lists of equal length with a number of exact matches fit. -/
theorem fits_of_exactMatches? {score : Nat} (lengthEq : parameters.length = kinds.length)
    (scored : exactMatches? parameters kinds = some score) : Fits parameters kinds := by
  induction parameters generalizing kinds score with
  | nil =>
      rw [List.length_eq_zero_iff.mp lengthEq.symm]
      exact .nil
  | cons parameter parameters ih =>
      cases kinds with
      | nil => contradiction
      | cons kind kinds =>
          have restLengthEq := Nat.succ.inj lengthEq
          rw [exactMatches?] at scored
          split at scored
          · rename_i exactly
            obtain ⟨rest, restScored, _⟩ := Option.map_eq_some_iff.mp scored
            exact .cons (exactly ▸ Kind.widensTo_self kind) (ih restLengthEq restScored)
          · split at scored
            · rename_i widens
              exact .cons widens (ih restLengthEq scored)
            · contradiction

section Resolution

variable {α : Type} {parametersOf : α → List Kind} {declared : List α} {chosen : α}

namespace Leaders

variable {leaders : Leaders α} {declaration : α}

private theorem mem_tied_challenge {score : Nat}
    (leads : chosen ∈ (leaders.challenge declaration score).tied) :
    chosen ∈ leaders.tied ∨ chosen = declaration := by
  rw [challenge] at leads
  split at leads
  · exact .inr (List.mem_singleton.mp leads)
  · split at leads
    · simpa using leads
    · exact .inl leads

private theorem mem_tied_consider
    (leads : chosen ∈ (leaders.consider parametersOf kinds declaration).tied) :
    chosen ∈ leaders.tied ∨ (chosen = declaration ∧ Fits (parametersOf chosen) kinds) := by
  rw [consider] at leads
  split at leads
  · rename_i lengthEq
    split at leads
    · rename_i score scored
      refine (mem_tied_challenge leads).imp_right ?_
      rintro rfl
      exact ⟨rfl, fits_of_exactMatches? lengthEq scored⟩
    · exact .inl leads
  · exact .inl leads

/-- Whoever leads after a competition led before, or took part and fits. -/
theorem mem_tied_foldl
    (leads : chosen ∈ (declared.foldl (consider parametersOf kinds) leaders).tied) :
    chosen ∈ leaders.tied ∨ (chosen ∈ declared ∧ Fits (parametersOf chosen) kinds) := by
  induction declared generalizing leaders with
  | nil => exact .inl leads
  | cons first rest ih =>
      rcases ih leads with early | ⟨member, fits⟩
      · refine (mem_tied_consider early).imp_right ?_
        rintro ⟨rfl, fits⟩
        exact ⟨List.mem_cons_self, fits⟩
      · exact .inr ⟨List.mem_cons_of_mem first member, fits⟩

end Leaders

/-- A call resolves to a declaration that fits. -/
theorem fits_of_resolveOverload
    (resolved : resolveOverload parametersOf declared kinds = .unique chosen) :
    chosen ∈ declared ∧ Fits (parametersOf chosen) kinds := by
  rw [resolveOverload] at resolved
  split at resolved
  · rename_i noArguments
    split at resolved
    · rename_i declaration found
      cases resolved
      have nullary := List.find?_some found
      rw [List.isEmpty_iff] at noArguments nullary
      rw [noArguments, nullary]
      exact ⟨List.mem_of_find?_eq_some found, .nil⟩
    · contradiction
  · split at resolved
    · contradiction
    · rename_i only tiedEq
      cases resolved
      have leads :
          chosen ∈ (declared.foldl (Leaders.consider parametersOf kinds) ⟨0, []⟩).tied := by
        rw [tiedEq]
        exact List.mem_singleton_self chosen
      exact (Leaders.mem_tied_foldl leads).resolve_left List.not_mem_nil
    · contradiction

end Resolution

theorem MethodInfo.answers_iff {method : MethodInfo} {name : String} {arity : Nat} :
    method.answers name arity = true ↔ method.name = name ∧ method.parameters.length = arity := by
  rw [answers, Bool.and_eq_true, beq_iff_eq, beq_iff_eq]

namespace TypeDescriptor

variable {type : TypeDescriptor} {arguments : List Value}

/-- A constructor that is selected was declared and binds. -/
theorem exists_bind_of_selectConstructor {constructor : ConstructorInfo}
    (selected : type.selectConstructor arguments = .ok constructor) :
    constructor ∈ type.constructors ∧ ∀ target, ∃ received,
      bindArguments target constructor.parameters arguments = .ok received ∧
        Passed constructor.parameters arguments received := by
  rw [selectConstructor] at selected
  cases resolved : resolveOverload ConstructorInfo.parameters type.constructors
      (arguments.map Value.kind) with
  | missing =>
      rw [resolved] at selected
      contradiction
  | ambiguous tied =>
      rw [resolved] at selected
      contradiction
  | unique chosen =>
      rw [resolved] at selected
      cases selected
      obtain ⟨member, fits⟩ := fits_of_resolveOverload resolved
      exact ⟨member, fun target => exists_bindFrom (List.forall₂_map_right_iff.mp fits)⟩

/-- Selecting a constructor does not fail for an argument that does not fit. -/
theorem selectConstructor_ne_argumentMismatch {target : String} {index : Nat}
    {expected got : Kind} :
    type.selectConstructor arguments ≠ .error (.argumentMismatch target index expected got) := by
  rw [selectConstructor]
  cases resolveOverload ConstructorInfo.parameters type.constructors
      (arguments.map Value.kind) <;> exact nofun

/-- A method that is found was declared, and has as many parameters as it was looked up
with. -/
theorem of_findMethod? {name : String} {arity : Nat} {method : MethodInfo}
    (found : type.findMethod? name arity = some method) :
    method ∈ type.methods ∧ method.name = name ∧ method.parameters.length = arity := by
  have answers := List.find?_some found
  exact ⟨List.mem_of_find?_eq_some found, MethodInfo.answers_iff.mp answers⟩

end TypeDescriptor

end ObjectBridge
