import Mathlib.Data.List.Perm.Basic
import ObjectBridge.Proofs.Reflect.Selection

/-!
# Which overload answers

Overload resolution goes through the declarations once and keeps those that lead.  What
it finds can be said without the order in which it looks: of the declarations that may
answer, those with the most exact matches.  The leaders after some declarations are the
ones with the best score so far, and that carries the argument.  Which declaration
answers a call with arguments, and whether one does, then does not depend on the order
of the declarations.
-/

namespace ObjectBridge

/-! ## Scores -/

/-- The number of arguments that have exactly the kind of their parameter. -/
def exactCount (parameters kinds : List Kind) : Nat :=
  (parameters.zip kinds).countP fun pair => pair.2 = pair.1

theorem exactMatches?_of_fits {parameters kinds : List Kind} (fits : Fits parameters kinds) :
    exactMatches? parameters kinds = some (exactCount parameters kinds) := by
  induction fits with
  | nil => rfl
  | @cons parameter kind parameters kinds widens _ ih =>
      rw [exactMatches?, ih, widens]
      by_cases same : kind = parameter
      · simp [same, exactCount]
      · simp [same, exactCount]

/-! ## Leaders -/

section Leaders

variable {α : Type} {parametersOf : α → List Kind} {kinds : List Kind} {declared seen : List α}
  {leaders : Leaders α} {declaration : α}

/-- The declarations that may answer a call, in order. -/
def applicable (parametersOf : α → List Kind) (kinds : List Kind) (declared : List α) : List α :=
  declared.filter fun declaration => Fits (parametersOf declaration) kinds

/-- The declarations that may answer a call with the most exact matches, in order. -/
def leading (parametersOf : α → List Kind) (kinds : List Kind) (declared : List α) : List α :=
  (applicable parametersOf kinds declared).filter fun declaration =>
    ∀ rival ∈ applicable parametersOf kinds declared,
      exactCount (parametersOf rival) kinds ≤ exactCount (parametersOf declaration) kinds

/-- After some declarations, all of which may answer, the leaders are those with the best
score, and the best score is theirs. -/
structure Leaders.Lead (score : α → Nat) (seen : List α) (leaders : Leaders α) : Prop where
  le_score : ∀ declaration ∈ seen, score declaration ≤ leaders.score
  tied_eq : leaders.tied = seen.filter fun declaration => score declaration = leaders.score
  eq_nil : leaders.tied = [] → seen = []

namespace Leaders

theorem lead_nil (score : α → Nat) : Lead score [] ⟨0, []⟩ where
  le_score _ member := absurd member List.not_mem_nil
  tied_eq := rfl
  eq_nil _ := rfl

/-- A challenge leaves those in the lead that have the best score now. -/
theorem Lead.challenge {score : α → Nat} (lead : Lead score seen leaders) (declaration : α) :
    Lead score (seen ++ [declaration]) (leaders.challenge declaration (score declaration)) := by
  rw [Leaders.challenge]
  split
  · rename_i better
    -- Whoever was seen before has a lower score, or nobody was.
    have lower : ∀ rival ∈ seen, score rival < score declaration := by
      intro rival member
      rw [Bool.or_eq_true, List.isEmpty_iff, decide_eq_true_eq] at better
      rcases better with empty | better
      · rw [lead.eq_nil empty] at member
        contradiction
      · exact Nat.lt_of_le_of_lt (lead.le_score rival member) better
    constructor
    · intro rival member
      rcases List.mem_append.mp member with early | last
      · exact Nat.le_of_lt (lower rival early)
      · exact Nat.le_of_eq (congrArg score (List.mem_singleton.mp last))
    · have none : seen.filter (fun rival => decide (score rival = score declaration)) = [] := by
        refine List.filter_eq_nil_iff.mpr fun rival member => ?_
        simpa using Nat.ne_of_lt (lower rival member)
      simp [none]
    · simp
  · rename_i notBetter
    rw [Bool.or_eq_true, List.isEmpty_iff, decide_eq_true_eq, not_or, Nat.not_lt] at notBetter
    obtain ⟨nonempty, le⟩ := notBetter
    have leScore : ∀ rival ∈ seen ++ [declaration], score rival ≤ leaders.score := by
      intro rival member
      rcases List.mem_append.mp member with early | last
      · exact lead.le_score rival early
      · rw [List.mem_singleton.mp last]
        exact le
    split
    · rename_i equal
      exact ⟨leScore, by simp [lead.tied_eq, equal], by simp⟩
    · rename_i worse
      exact ⟨leScore, by simp [lead.tied_eq, worse], fun empty => absurd empty nonempty⟩

/-- A declaration that may answer challenges with its exact matches, and any other does
not compete. -/
theorem consider_eq :
    consider parametersOf kinds leaders declaration =
      if Fits (parametersOf declaration) kinds then
        leaders.challenge declaration (exactCount (parametersOf declaration) kinds)
      else leaders := by
  rw [consider]
  by_cases fits : Fits (parametersOf declaration) kinds
  · rw [if_pos fits, if_pos fits.length_eq, exactMatches?_of_fits fits]
  · rw [if_neg fits]
    split
    · rename_i lengthEq
      cases scored : exactMatches? (parametersOf declaration) kinds with
      | none => rfl
      | some score => exact absurd (fits_of_exactMatches? lengthEq scored) fits
    · rfl

theorem Lead.foldl_consider (declared : List α)
    (lead : Lead (fun declaration => exactCount (parametersOf declaration) kinds) seen leaders) :
    Lead (fun declaration => exactCount (parametersOf declaration) kinds)
      (seen ++ applicable parametersOf kinds declared)
      (declared.foldl (consider parametersOf kinds) leaders) := by
  induction declared generalizing seen leaders with
  | nil => simpa [applicable] using lead
  | cons first rest ih =>
      rw [List.foldl_cons, consider_eq]
      by_cases fits : Fits (parametersOf first) kinds
      · have restLead := ih (lead.challenge first)
        rw [if_pos fits]
        simpa [applicable, fits] using restLead
      · have restLead := ih lead
        rw [if_neg fits]
        simpa [applicable, fits] using restLead

/-- Those with the best score are those that none of the others beats. -/
theorem Lead.tied_eq_filter {score : α → Nat} (lead : Lead score seen leaders) :
    leaders.tied = seen.filter fun declaration =>
      ∀ rival ∈ seen, score rival ≤ score declaration := by
  rw [lead.tied_eq]
  refine List.filter_congr fun declaration member => ?_
  rw [decide_eq_decide]
  constructor
  · intro best rival rivalMember
    rw [best]
    exact lead.le_score rival rivalMember
  · intro unbeaten
    have nonempty : leaders.tied ≠ [] := fun empty =>
      List.not_mem_nil (lead.eq_nil empty ▸ member)
    obtain ⟨leader, leads⟩ := List.exists_mem_of_ne_nil _ nonempty
    rw [lead.tied_eq, List.mem_filter, decide_eq_true_eq] at leads
    exact Nat.le_antisymm (lead.le_score declaration member)
      (leads.2 ▸ unbeaten leader leads.1)

theorem tied_foldl_consider :
    (declared.foldl (consider parametersOf kinds) ⟨0, []⟩).tied =
      leading parametersOf kinds declared := by
  have lead := (lead_nil fun declaration => exactCount (parametersOf declaration) kinds)
    |>.foldl_consider declared
  exact lead.tied_eq_filter

end Leaders

theorem applicable_eq_nil_iff :
    applicable parametersOf kinds declared = [] ↔
      ∀ declaration ∈ declared, ¬Fits (parametersOf declaration) kinds := by
  simp [applicable, List.filter_eq_nil_iff]

/-- Somebody leads if anybody may answer. -/
theorem leading_eq_nil_iff :
    leading parametersOf kinds declared = [] ↔ applicable parametersOf kinds declared = [] := by
  constructor
  · intro empty
    have lead := (Leaders.lead_nil fun declaration => exactCount (parametersOf declaration) kinds)
      |>.foldl_consider declared
    rw [← Leaders.tied_foldl_consider] at empty
    exact lead.eq_nil empty
  · intro empty
    rw [leading, empty]
    rfl

theorem perm_leading {other : List α} (permuted : declared.Perm other) :
    (leading parametersOf kinds declared).Perm (leading parametersOf kinds other) := by
  have applicablePermuted : (applicable parametersOf kinds declared).Perm
      (applicable parametersOf kinds other) := permuted.filter _
  rw [leading, leading]
  simp only [applicablePermuted.mem_iff]
  exact applicablePermuted.filter _

/-- What a call comes to, given whoever leads. -/
def Resolution.ofLeading : List α → Resolution α
  | [] => .missing
  | [only] => .unique only
  | tied => .ambiguous tied

/-- A call with arguments resolves to whoever leads. -/
theorem resolveOverload_of_ne_nil (nonempty : kinds ≠ []) :
    resolveOverload parametersOf declared kinds =
      .ofLeading (leading parametersOf kinds declared) := by
  have notEmpty : kinds.isEmpty = false := List.isEmpty_eq_false_iff.mpr nonempty
  rw [resolveOverload, notEmpty, if_neg Bool.false_ne_true, Leaders.tied_foldl_consider]
  rcases leading parametersOf kinds declared with _ | ⟨_, _ | _⟩ <;> rfl

end Leaders

/-! ## Constructors -/

namespace TypeDescriptor

variable {type : TypeDescriptor} {arguments : List Value} {chosen : ConstructorInfo}

/-- The constructors that may answer a call. -/
def applicableConstructors (type : TypeDescriptor) (arguments : List Value) :
    List ConstructorInfo :=
  applicable ConstructorInfo.parameters (arguments.map Value.kind) type.constructors

/-- The constructors that may answer a call with the most exact matches. -/
def leadingConstructors (type : TypeDescriptor) (arguments : List Value) :
    List ConstructorInfo :=
  leading ConstructorInfo.parameters (arguments.map Value.kind) type.constructors

/-- A call with arguments is answered by the constructor that leads, if there is one and
no other. -/
theorem selectConstructor_of_ne_nil (nonempty : arguments ≠ []) :
    type.selectConstructor arguments =
      type.constructorAnswer ConstructorInfo.parameters arguments.length
        (.ofLeading (type.leadingConstructors arguments)) := by
  have kindsNonempty : arguments.map Value.kind ≠ [] :=
    fun empty => nonempty (List.map_eq_nil_iff.mp empty)
  rw [selectConstructor, resolveOverload_of_ne_nil kindsNonempty, leadingConstructors]

theorem selectConstructor_eq_missing_iff (nonempty : arguments ≠ []) :
    type.selectConstructor arguments =
        .error (.missingConstructor type.name arguments.length) ↔
      type.leadingConstructors arguments = [] := by
  rw [selectConstructor_of_ne_nil nonempty]
  rcases type.leadingConstructors arguments with _ | ⟨first, _ | ⟨second, rest⟩⟩
  all_goals simp [Resolution.ofLeading, constructorAnswer]

theorem selectConstructor_eq_ok_iff (nonempty : arguments ≠ []) :
    type.selectConstructor arguments = .ok chosen ↔
      type.leadingConstructors arguments = [chosen] := by
  rw [selectConstructor_of_ne_nil nonempty]
  rcases type.leadingConstructors arguments with _ | ⟨first, _ | ⟨second, rest⟩⟩
  all_goals simp [Resolution.ofLeading, constructorAnswer]

theorem selectConstructor_eq_ambiguous_iff (nonempty : arguments ≠ []) {candidates : List String} :
    type.selectConstructor arguments = .error (.ambiguousMatch type.name candidates) ↔
      1 < (type.leadingConstructors arguments).length ∧
        candidates = (type.leadingConstructors arguments).map type.constructorSignature := by
  rw [selectConstructor_of_ne_nil nonempty]
  rcases type.leadingConstructors arguments with _ | ⟨first, _ | ⟨second, rest⟩⟩
  · simp [Resolution.ofLeading, constructorAnswer]
  · simp [Resolution.ofLeading, constructorAnswer]
  · have answerEq : type.constructorAnswer ConstructorInfo.parameters arguments.length
        (.ofLeading (first :: second :: rest)) = .error (.ambiguousMatch type.name
          ((first :: second :: rest).map type.constructorSignature)) := rfl
    rw [answerEq]
    simp [eq_comm]

/-- A call selects a constructor, finds none, or is ambiguous. -/
theorem selectConstructor_cases (type : TypeDescriptor) (arguments : List Value) :
    (∃ chosen, type.selectConstructor arguments = .ok chosen) ∨
      type.selectConstructor arguments =
        .error (.missingConstructor type.name arguments.length) ∨
      ∃ candidates, type.selectConstructor arguments =
        .error (.ambiguousMatch type.name candidates) := by
  rw [selectConstructor]
  cases resolveOverload ConstructorInfo.parameters type.constructors
      (arguments.map Value.kind) with
  | missing => exact .inr (.inl rfl)
  | unique chosen => exact .inl ⟨chosen, rfl⟩
  | ambiguous tied => exact .inr (.inr ⟨_, rfl⟩)

/-- A call without arguments selects the first constructor without parameters. -/
theorem selectConstructor_nil_eq_ok_iff :
    type.selectConstructor [] = .ok chosen ↔
      ∃ before after, type.constructors = before ++ chosen :: after ∧ chosen.parameters = [] ∧
        ∀ earlier ∈ before, earlier.parameters ≠ [] := by
  rw [selectConstructor, List.map_nil, resolveOverload, List.isEmpty_nil, if_pos rfl]
  have foundIff : type.constructors.find? (fun constructor => constructor.parameters.isEmpty) =
      some chosen ↔ _ := List.find?_eq_some_iff_append
  cases found : type.constructors.find? fun constructor => constructor.parameters.isEmpty with
  | none =>
      rw [found] at foundIff
      simpa [constructorAnswer, and_left_comm] using foundIff
  | some first =>
      rw [found, Option.some_inj] at foundIff
      simpa [constructorAnswer, and_left_comm] using foundIff

/-- A call without arguments is not ambiguous. -/
theorem selectConstructor_nil_cases (type : TypeDescriptor) :
    (∃ chosen, type.selectConstructor [] = .ok chosen) ∨
      type.selectConstructor [] = .error (.missingConstructor type.name 0) := by
  rw [selectConstructor, List.map_nil, resolveOverload, List.isEmpty_nil, if_pos rfl]
  cases type.constructors.find? fun constructor => constructor.parameters.isEmpty with
  | none => exact .inr rfl
  | some first => exact .inl ⟨first, rfl⟩

/-- A call without arguments finds no constructor if all have parameters. -/
theorem selectConstructor_nil_eq_missing_iff :
    type.selectConstructor [] = .error (.missingConstructor type.name 0) ↔
      ∀ declared ∈ type.constructors, declared.parameters ≠ [] := by
  rw [selectConstructor, List.map_nil, resolveOverload, List.isEmpty_nil, if_pos rfl]
  cases found : type.constructors.find? fun constructor => constructor.parameters.isEmpty with
  | none => simpa [constructorAnswer] using found
  | some first =>
      have isNullary : first.parameters.isEmpty = true :=
        List.find?_some (p := fun declared : ConstructorInfo => declared.parameters.isEmpty) found
      have nullary := List.isEmpty_iff.mp isNullary
      have member := List.mem_of_find?_eq_some found
      constructor
      · intro answered
        contradiction
      · intro none
        exact absurd nullary (none first member)

variable {other : TypeDescriptor}

theorem perm_leadingConstructors (arguments : List Value)
    (permuted : type.constructors.Perm other.constructors) :
    (type.leadingConstructors arguments).Perm (other.leadingConstructors arguments) :=
  perm_leading permuted

/-- The order of the declarations does not decide which constructor leads alone. -/
theorem leadingConstructors_eq_singleton_iff
    (permuted : type.constructors.Perm other.constructors) :
    other.leadingConstructors arguments = [chosen] ↔
      type.leadingConstructors arguments = [chosen] := by
  have leadingPermuted := perm_leadingConstructors arguments permuted
  constructor
  · intro alone
    rw [alone] at leadingPermuted
    exact List.perm_singleton.mp leadingPermuted
  · intro alone
    rw [alone] at leadingPermuted
    exact List.perm_singleton.mp leadingPermuted.symm

/-- The order of the declarations decides the order in which an ambiguous call lists them,
and nothing else. -/
theorem exists_ambiguous_of_perm {candidates : List String} (nameEq : other.name = type.name)
    (permuted : type.constructors.Perm other.constructors) (nonempty : arguments ≠ [])
    (ambiguous :
      type.selectConstructor arguments = .error (.ambiguousMatch type.name candidates)) :
    ∃ reordered, reordered.Perm candidates ∧
      other.selectConstructor arguments = .error (.ambiguousMatch type.name reordered) := by
  have leadingPermuted := perm_leadingConstructors arguments permuted
  have signatureEq : other.constructorSignature = type.constructorSignature := by
    funext constructor
    rw [constructorSignature, constructorSignature, nameEq]
  obtain ⟨several, rfl⟩ := (selectConstructor_eq_ambiguous_iff nonempty).mp ambiguous
  refine ⟨(other.leadingConstructors arguments).map other.constructorSignature, ?_, ?_⟩
  · rw [signatureEq]
    exact leadingPermuted.symm.map _
  · rw [← nameEq]
    exact (selectConstructor_eq_ambiguous_iff nonempty).mpr
      ⟨leadingPermuted.length_eq ▸ several, rfl⟩

/-- **Overload resolution.**  A call without arguments selects the first constructor
without parameters.  A call with arguments selects the constructor that leads: it may
answer, and none that may answer has as many exact matches.  If none may answer the
constructor is missing, and if several lead the call is ambiguous between them, in the
order of their declarations.  Which of these it is does not depend on that order. -/
theorem selectConstructor_resolves (type : TypeDescriptor) (arguments : List Value) :
    ((∃ chosen, type.selectConstructor arguments = .ok chosen) ∨
      type.selectConstructor arguments =
        .error (.missingConstructor type.name arguments.length) ∨
      ∃ candidates, type.selectConstructor arguments =
        .error (.ambiguousMatch type.name candidates)) ∧
    (arguments = [] →
      (∀ chosen, type.selectConstructor arguments = .ok chosen ↔
        ∃ before after, type.constructors = before ++ chosen :: after ∧
          chosen.parameters = [] ∧ ∀ earlier ∈ before, earlier.parameters ≠ []) ∧
      (type.selectConstructor arguments = .error (.missingConstructor type.name 0) ↔
        ∀ declared ∈ type.constructors, declared.parameters ≠ [])) ∧
    (arguments ≠ [] →
      (type.selectConstructor arguments =
          .error (.missingConstructor type.name arguments.length) ↔
        type.applicableConstructors arguments = []) ∧
      (∀ chosen, type.selectConstructor arguments = .ok chosen ↔
        type.leadingConstructors arguments = [chosen]) ∧
      (∀ candidates, type.selectConstructor arguments =
          .error (.ambiguousMatch type.name candidates) ↔
        1 < (type.leadingConstructors arguments).length ∧
          candidates = (type.leadingConstructors arguments).map type.constructorSignature) ∧
      ∀ other : TypeDescriptor, other.name = type.name →
        type.constructors.Perm other.constructors →
        (∀ chosen, other.selectConstructor arguments = .ok chosen ↔
          type.selectConstructor arguments = .ok chosen) ∧
        (other.selectConstructor arguments =
            .error (.missingConstructor type.name arguments.length) ↔
          type.selectConstructor arguments =
            .error (.missingConstructor type.name arguments.length)) ∧
        ∀ candidates,
          type.selectConstructor arguments = .error (.ambiguousMatch type.name candidates) →
          ∃ reordered, reordered.Perm candidates ∧
            other.selectConstructor arguments =
              .error (.ambiguousMatch type.name reordered)) := by
  refine ⟨type.selectConstructor_cases arguments, ?nullary, ?leading⟩
  case nullary =>
    rintro rfl
    exact ⟨fun chosen => selectConstructor_nil_eq_ok_iff, selectConstructor_nil_eq_missing_iff⟩
  case leading =>
    intro nonempty
    refine ⟨?missing, fun chosen => selectConstructor_eq_ok_iff nonempty,
      fun candidates => selectConstructor_eq_ambiguous_iff nonempty, ?reordered⟩
    case missing => exact (selectConstructor_eq_missing_iff nonempty).trans leading_eq_nil_iff
    case reordered =>
      intro other nameEq permuted
      refine ⟨fun chosen => ?_, ?_, fun candidates =>
        exists_ambiguous_of_perm nameEq permuted nonempty⟩
      · rw [selectConstructor_eq_ok_iff nonempty, selectConstructor_eq_ok_iff nonempty]
        exact leadingConstructors_eq_singleton_iff permuted
      · have leadingPermuted := perm_leadingConstructors arguments permuted
        rw [selectConstructor_eq_missing_iff nonempty, ← nameEq,
          selectConstructor_eq_missing_iff nonempty]
        exact ⟨fun empty => (empty ▸ leadingPermuted).eq_nil,
          fun empty => (empty ▸ leadingPermuted).symm.eq_nil⟩

/-- A type with a constructor for each of some lists of kinds. -/
def declaring (name : String) (parameterLists : List (List Kind)) : TypeDescriptor where
  name
  constructors := parameterLists.map fun parameters =>
    { parameters, body := fun _ => .fault (.plain "Not constructed") }
  methods := []

/-- A `long` and an `int` match exactly once for each of two constructors, and not at all for
a third.  Listed the other way round, the constructors stay as ambiguous as they were. -/
theorem selectConstructor_resolves_gauge :
    let gauge := declaring "Test.Gauge" [[.double, .double], [.long, .double], [.int], [],
      [.float, .int]]
    let reversed := declaring "Test.Gauge" [[.float, .int], [], [.int], [.long, .double],
      [.double, .double]]
    gauge.selectConstructor [.long 1, .int 2] = .error (.ambiguousMatch "Test.Gauge"
      ["Test.Gauge..ctor(long, double)", "Test.Gauge..ctor(float, int)"]) ∧
    (∃ reordered, reordered.Perm
        ["Test.Gauge..ctor(long, double)", "Test.Gauge..ctor(float, int)"] ∧
      reversed.selectConstructor [.long 1, .int 2] =
        .error (.ambiguousMatch "Test.Gauge" reordered)) ∧
    ∃ chosen, gauge.selectConstructor [] = .ok chosen := by
  intro gauge reversed
  obtain ⟨-, -, ofArguments⟩ := selectConstructor_resolves gauge [.long 1, .int 2]
  obtain ⟨-, -, ambiguousIff, reordering⟩ := ofArguments (List.cons_ne_nil _ _)
  have ambiguous := (ambiguousIff
    ["Test.Gauge..ctor(long, double)", "Test.Gauge..ctor(float, int)"]).mpr
      ⟨by decide, by decide +kernel⟩
  have permuted : gauge.constructors.Perm reversed.constructors :=
    (List.reverse_perm gauge.constructors).symm
  obtain ⟨-, ofNone, -⟩ := selectConstructor_resolves gauge []
  have nullary := ((ofNone rfl).1 ⟨[], fun _ => .fault (.plain "Not constructed")⟩).mpr
    ⟨gauge.constructors.take 3, gauge.constructors.drop 4, rfl, rfl, by
      simp [gauge, declaring]⟩
  exact ⟨ambiguous, (reordering reversed rfl permuted).2.2 _ ambiguous, _, nullary⟩

end TypeDescriptor

end ObjectBridge
