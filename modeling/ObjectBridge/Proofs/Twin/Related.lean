import Mathlib.Data.List.Forall2
import ObjectBridge.Proofs.Bridge.Reactions
import ObjectBridge.Proofs.Heap.Contents

/-!
# Types with related bodies

Two types are related by a relation of bodies if they have the same name and declare
members with the same parameters, in the same order, whose bodies are related.  The
dispatcher does not look into bodies: it selects and binds alike for both, with the
same errors, and a bridge that knows the one reacts to a creation or a call as a bridge
that knows the other does, up to the bodies that begin.
-/

namespace ObjectBridge

/-! ## Related outcomes -/

/-- Outcomes that are the same error, or results that are related. -/
inductive Alike {ε α β : Type} (related : α → β → Prop) : Except ε α → Except ε β → Prop
  | error (cause : ε) : Alike related (.error cause) (.error cause)
  | ok {first : α} {second : β} : related first second → Alike related (.ok first) (.ok second)

/-- Resolutions to related declarations. -/
inductive Resolution.Alike {α β : Type} (related : α → β → Prop) :
    Resolution α → Resolution β → Prop
  | missing : Alike related .missing .missing
  | unique {first : α} {second : β} :
      related first second → Alike related (.unique first) (.unique second)
  | ambiguous {first : List α} {second : List β} :
      List.Forall₂ related first second → Alike related (.ambiguous first) (.ambiguous second)

variable {ε α β : Type} {related : α → β → Prop}

theorem Alike.imp {weaker : α → β → Prop} {first : Except ε α} {second : Except ε β}
    (alike : Alike related first second)
    (implied : ∀ left right, related left right → weaker left right) :
    Alike weaker first second := by
  cases alike with
  | error cause => exact .error cause
  | ok here => exact .ok (implied _ _ here)

theorem Alike.error_or_ok {first : Except ε α} {second : Except ε β}
    (alike : Alike related first second) :
    (∃ cause, first = .error cause ∧ second = .error cause) ∨
      ∃ left right, first = .ok left ∧ second = .ok right ∧ related left right := by
  cases alike with
  | error cause => exact .inl ⟨cause, rfl, rfl⟩
  | ok here => exact .inr ⟨_, _, rfl, rfl, here⟩

theorem Alike.of_map_eq {γ : Type} {image : α → γ} {otherImage : β → γ} {first : Except ε α}
    {second : Except ε β} (mapped : first.map image = second.map otherImage) :
    Alike (fun left right => image left = otherImage right) first second := by
  cases first with
  | error cause =>
      cases second with
      | error found =>
          cases mapped
          exact .error cause
      | ok right => contradiction
  | ok left =>
      cases second with
      | error found => contradiction
      | ok right => exact .ok (Except.ok.inj mapped)

/-! ## Related declarations -/

section Declarations

variable (bodies : ∀ {σ α : Type}, Program σ α → Program σ α → Prop)

/-- Constructors with the same parameters and related bodies. -/
structure ConstructorInfo.Related (first second : ConstructorInfo) : Prop where
  parameters_eq : first.parameters = second.parameters
  body : ∀ arguments, bodies (first.body arguments) (second.body arguments)

/-- Methods with the same name and parameters and related bodies. -/
structure MethodInfo.Related (first second : MethodInfo) : Prop where
  name_eq : first.name = second.name
  parameters_eq : first.parameters = second.parameters
  body : ∀ state arguments, bodies (first.body state arguments) (second.body state arguments)

/-- Types with the same name and related declarations. -/
structure TypeDescriptor.Related (first second : TypeDescriptor) : Prop where
  name_eq : first.name = second.name
  constructors :
    List.Forall₂ (ConstructorInfo.Related bodies) first.constructors second.constructors
  methods : List.Forall₂ (MethodInfo.Related bodies) first.methods second.methods

/-- Contents of related types and in the same state. -/
structure ContentRelated (first second : TypeDescriptor × ObjectState) : Prop where
  type : first.1.Related bodies second.1
  state_eq : first.2 = second.2

/-- Objects with the same number and related contents. -/
structure HeapObject.Related (first second : HeapObject) : Prop where
  id_eq : first.id = second.id
  type : first.type.Related bodies second.type
  state_eq : first.state = second.state

/-- Constructors of related types, with the same target and related bodies. -/
structure Bridge.Construction.Related (first second : Construction) : Prop where
  type : first.type.Related bodies second.type
  target_eq : first.target = second.target
  body : bodies first.body second.body

/-- Methods of the same receiver, with the same target and related bodies. -/
structure Bridge.Invocation.Related (first second : Invocation) : Prop where
  receiver_eq : first.receiver = second.receiver
  target_eq : first.target = second.target
  body : bodies first.body second.body

end Declarations

/-! ## Selection -/

section Lists

variable {α β : Type} {related : α → β → Prop} {first : List α} {second : List β}

private theorem find?_rel {chosen : α → Bool} {alsoChosen : β → Bool}
    (agree : ∀ left right, related left right → chosen left = alsoChosen right)
    (lists : List.Forall₂ related first second) :
    Option.Rel related (first.find? chosen) (second.find? alsoChosen) := by
  induction lists with
  | nil => exact .none
  | @cons left right firstRest secondRest here _ ih =>
      cases chosenEq : chosen left with
      | true =>
          have alsoEq := (agree left right here).symm.trans chosenEq
          rw [List.find?_cons_of_pos chosenEq, List.find?_cons_of_pos alsoEq]
          exact .some here
      | false =>
          have alsoEq := (agree left right here).symm.trans chosenEq
          rw [List.find?_cons_of_neg (by simp [chosenEq]),
            List.find?_cons_of_neg (by simp [alsoEq])]
          exact ih

private theorem map_eq_of_forall₂ {γ : Type} {image : α → γ} {alsoImage : β → γ}
    (agree : ∀ left right, related left right → image left = alsoImage right)
    (lists : List.Forall₂ related first second) : first.map image = second.map alsoImage := by
  induction lists with
  | nil => rfl
  | cons here _ ih => rw [List.map_cons, List.map_cons, agree _ _ here, ih]

private theorem isEmpty_eq_of_forall₂ (lists : List.Forall₂ related first second) :
    first.isEmpty = second.isEmpty := by
  cases lists <;> rfl

/-- Leaders with the same score who are related one by one. -/
private structure LeadersAlike (related : α → β → Prop) (leaders : Leaders α)
    (others : Leaders β) : Prop where
  score_eq : leaders.score = others.score
  tied : List.Forall₂ related leaders.tied others.tied

private theorem LeadersAlike.challenge {leaders : Leaders α} {others : Leaders β}
    (alike : LeadersAlike related leaders others) {left : α} {right : β}
    (here : related left right) (score : Nat) :
    LeadersAlike related (leaders.challenge left score) (others.challenge right score) := by
  simp only [Leaders.challenge, alike.score_eq, isEmpty_eq_of_forall₂ alike.tied]
  split
  · exact ⟨rfl, .cons here .nil⟩
  · split
    · exact ⟨rfl, List.rel_append alike.tied (.cons here .nil)⟩
    · exact alike

private theorem LeadersAlike.consider {leaders : Leaders α} {others : Leaders β}
    {parameters : α → List Kind} {otherParameters : β → List Kind}
    (agree : ∀ left right, related left right → parameters left = otherParameters right)
    (alike : LeadersAlike related leaders others) {left : α} {right : β}
    (here : related left right) (arguments : List Kind) :
    LeadersAlike related (leaders.consider parameters arguments left)
      (others.consider otherParameters arguments right) := by
  simp only [Leaders.consider, agree left right here]
  split
  · split
    · exact alike.challenge here _
    · exact alike
  · exact alike

private theorem leadersAlike_foldl {parameters : α → List Kind}
    {otherParameters : β → List Kind}
    (agree : ∀ left right, related left right → parameters left = otherParameters right)
    (arguments : List Kind) (lists : List.Forall₂ related first second) :
    ∀ {leaders : Leaders α} {others : Leaders β}, LeadersAlike related leaders others →
      LeadersAlike related (first.foldl (Leaders.consider parameters arguments) leaders)
        (second.foldl (Leaders.consider otherParameters arguments) others) := by
  induction lists with
  | nil =>
      intro leaders others alike
      exact alike
  | cons here _ ih =>
      intro leaders others alike
      exact ih (alike.consider agree here arguments)

/-- Overloads are resolved alike where they have the same parameters. -/
private theorem resolveOverload_alike {parameters : α → List Kind}
    {otherParameters : β → List Kind}
    (agree : ∀ left right, related left right → parameters left = otherParameters right)
    (arguments : List Kind) (lists : List.Forall₂ related first second) :
    Resolution.Alike related (resolveOverload parameters first arguments)
      (resolveOverload otherParameters second arguments) := by
  rw [resolveOverload, resolveOverload]
  split
  · have found : Option.Rel related (first.find? fun left => (parameters left).isEmpty)
        (second.find? fun right => (otherParameters right).isEmpty) :=
      find?_rel (fun left right here => by rw [agree left right here]) lists
    generalize (first.find? fun left => (parameters left).isEmpty) = left at found ⊢
    generalize (second.find? fun right => (otherParameters right).isEmpty) = right at found ⊢
    cases found with
    | none => exact .missing
    | some here => exact .unique here
  · have alike : LeadersAlike related (⟨0, []⟩ : Leaders α) (⟨0, []⟩ : Leaders β) := ⟨rfl, .nil⟩
    have tied := (leadersAlike_foldl agree arguments lists alike).tied
    generalize (first.foldl (Leaders.consider parameters arguments) ⟨0, []⟩).tied = left at tied ⊢
    generalize (second.foldl (Leaders.consider otherParameters arguments) ⟨0, []⟩).tied = right
      at tied ⊢
    cases tied with
    | nil => exact .missing
    | cons here rest =>
        cases rest with
        | nil => exact .unique here
        | cons there rest => exact .ambiguous (.cons here (.cons there rest))

end Lists

variable {bodies : ∀ {σ α : Type}, Program σ α → Program σ α → Prop}

namespace TypeDescriptor.Related

variable {first second : TypeDescriptor}

/-- Constructors are selected alike. -/
theorem selectConstructor (types : first.Related bodies second) (arguments : List Value) :
    Alike (ConstructorInfo.Related bodies) (first.selectConstructor arguments)
      (second.selectConstructor arguments) := by
  have agree : ∀ left right : ConstructorInfo, left.Related bodies right →
      left.parameters = right.parameters := fun _ _ here => here.parameters_eq
  have resolved := resolveOverload_alike agree (arguments.map Value.kind) types.constructors
  rw [TypeDescriptor.selectConstructor, TypeDescriptor.selectConstructor]
  generalize resolveOverload ConstructorInfo.parameters first.constructors
    (arguments.map Value.kind) = left at resolved ⊢
  generalize resolveOverload ConstructorInfo.parameters second.constructors
    (arguments.map Value.kind) = right at resolved ⊢
  cases resolved with
  | missing =>
      simp only [constructorAnswer, types.name_eq]
      exact .error _
  | unique here => exact .ok here
  | ambiguous tied =>
      simp only [constructorAnswer, types.name_eq]
      rw [map_eq_of_forall₂ (fun left right here => by rw [agree left right here]) tied]
      exact .error _

/-- Methods are found alike. -/
theorem findMethod? (types : first.Related bodies second) (name : String) (arity : Nat) :
    Option.Rel (MethodInfo.Related bodies) (first.findMethod? name arity)
      (second.findMethod? name arity) :=
  find?_rel
    (fun left right here => by
      rw [MethodInfo.answers, MethodInfo.answers, here.name_eq, here.parameters_eq])
    types.methods

end TypeDescriptor.Related

/-! ## Binding -/

namespace Bridge

theorem prepareConstruction_related {type other : TypeDescriptor}
    (types : type.Related bodies other) (arguments : List Value) :
    Alike (Construction.Related bodies) (prepareConstruction type arguments)
      (prepareConstruction other arguments) := by
  have selected := types.selectConstructor arguments
  rw [prepareConstruction, prepareConstruction]
  generalize type.selectConstructor arguments = left at selected ⊢
  generalize other.selectConstructor arguments = right at selected ⊢
  cases selected with
  | error cause => exact .error cause
  | @ok left right here =>
      have targetEq : type.constructorSignature left = other.constructorSignature right := by
        simp only [TypeDescriptor.constructorSignature, types.name_eq, here.parameters_eq]
      simp only [bind, Except.bind, targetEq, here.parameters_eq]
      split
      · exact .error _
      · exact .ok ⟨types, rfl, here.body _⟩

theorem prepareInvocation_related {object other : HeapObject}
    (objects : object.Related bodies other) (method : String) (arguments : List Value) :
    Alike (Invocation.Related bodies) (prepareInvocation object method arguments)
      (prepareInvocation other method arguments) := by
  have found := objects.type.findMethod? method arguments.length
  rw [prepareInvocation, prepareInvocation]
  generalize object.type.findMethod? method arguments.length = left at found ⊢
  generalize other.type.findMethod? method arguments.length = right at found ⊢
  cases found with
  | none =>
      simp only [objects.type.name_eq]
      exact .error _
  | @some left right here =>
      have targetEq : object.type.methodSignature left = other.type.methodSignature right := by
        simp only [TypeDescriptor.methodSignature, MethodInfo.signature, objects.type.name_eq,
          here.name_eq, here.parameters_eq]
      simp only [bind, Except.bind, targetEq, here.parameters_eq]
      split
      · exact .error _
      · exact .ok ⟨objects.id_eq, rfl, by rw [objects.state_eq]; exact here.body _ _⟩

/-! ## Reactions -/

variable {first second : Bridge}

/-- Where a name leads to related types, a creation is answered alike, or related
constructors begin. -/
theorem react_create_related {typeName : String}
    (found : Option.Rel (TypeDescriptor.Related bodies) (first.registry.findType? typeName)
      (second.registry.findType? typeName))
    (arguments : List Value) (mode otherMode : HandleMode) :
    (first.react (.create typeName arguments mode) =
        .answered (.created (.ok none)) .quiet (first.tell (.typeNotFound typeName)) ∧
      second.react (.create typeName arguments otherMode) =
        .answered (.created (.ok none)) .quiet (second.tell (.typeNotFound typeName))) ∨
    (∃ cause,
      first.react (.create typeName arguments mode) =
        .answered (.created (.error (.dispatch cause))) .quiet first ∧
      second.react (.create typeName arguments otherMode) =
        .answered (.created (.error (.dispatch cause))) .quiet second) ∨
    ∃ work other,
      first.react (.create typeName arguments mode) = .begun (.construction work mode) first ∧
      second.react (.create typeName arguments otherMode) =
        .begun (.construction other otherMode) second ∧
      work.Related bodies other := by
  simp only [react]
  generalize first.registry.findType? typeName = left at found ⊢
  generalize second.registry.findType? typeName = right at found ⊢
  cases found with
  | none => exact .inl ⟨rfl, rfl⟩
  | @some type other types =>
      have prepared := prepareConstruction_related types arguments
      simp only
      generalize prepareConstruction type arguments = left at prepared ⊢
      generalize prepareConstruction other arguments = right at prepared ⊢
      cases prepared with
      | error cause => exact .inr (.inl ⟨cause, rfl, rfl⟩)
      | ok here => exact .inr (.inr ⟨_, _, rfl, rfl, here⟩)

/-- Where a token leads to related objects, and the same methods run, a call is answered
alike, or would wait for itself in both, or related methods begin. -/
theorem react_invoke_related {token : Token}
    (resolved : Alike (HeapObject.Related bodies) (first.resolve token) (second.resolve token))
    (runningEq : first.store.running = second.store.running) (method : String)
    (arguments : List Value) :
    (∃ outcome,
      first.react (.invoke token method arguments) = .answered (.invoked outcome) .quiet first ∧
      second.react (.invoke token method arguments) =
        .answered (.invoked outcome) .quiet second) ∨
    (∃ object, first.react (.invoke token method arguments) = .reentered object ∧
      second.react (.invoke token method arguments) = .reentered object) ∨
    ∃ work other,
      first.react (.invoke token method arguments) =
        .begun (.invocation work) (first.enter work.receiver) ∧
      second.react (.invoke token method arguments) =
        .begun (.invocation other) (second.enter other.receiver) ∧
      work.Related bodies other := by
  simp only [react]
  generalize first.resolve token = left at resolved ⊢
  generalize second.resolve token = right at resolved ⊢
  cases resolved with
  | error cause => exact .inl ⟨_, rfl, rfl⟩
  | @ok object other objects =>
      have prepared := prepareInvocation_related objects method arguments
      simp only
      generalize prepareInvocation object method arguments = left at prepared ⊢
      generalize prepareInvocation other method arguments = right at prepared ⊢
      cases prepared with
      | error cause => exact .inl ⟨_, rfl, rfl⟩
      | @ok work other here =>
          simp only [← here.receiver_eq, ← runningEq]
          cases runs : first.store.running.contains work.receiver with
          | true => exact .inr (.inl ⟨_, rfl, rfl⟩)
          | false =>
              refine .inr (.inr ⟨work, other, rfl, ?_, here⟩)
              simp [here.receiver_eq]

end Bridge

/-! ## Resolving -/

/-- Where a token leads to the same number, and the contents there are related, it leads
to related objects. -/
theorem Store.Coherent.resolve_related {first second : Store} {token : Token}
    (firstCoherent : first.Coherent) (secondCoherent : second.Coherent)
    (idEq : first.resolveId token = second.resolveId token)
    (contents : ∀ id, first.resolveId token = .ok id →
      Option.Rel (ContentRelated bodies) (first.heap.content? id) (second.heap.content? id)) :
    Alike (HeapObject.Related bodies) (first.resolve token) (second.resolve token) := by
  cases resolved : first.resolveId token with
  | error cause =>
      rw [firstCoherent.resolve_eq_error_iff.mpr resolved,
        secondCoherent.resolve_eq_error_iff.mpr (idEq.symm.trans resolved)]
      exact .error cause
  | ok id =>
      have alike := contents id resolved
      rw [resolved] at idEq
      have firstAlive := (firstCoherent.counts.isAlive_iff id).mpr
        (firstCoherent.mem_of_resolveId resolved)
      have secondAlive := (secondCoherent.counts.isAlive_iff id).mpr
        (secondCoherent.mem_of_resolveId idEq.symm)
      obtain ⟨left, leftFound⟩ := Option.isSome_iff_exists.mp firstAlive
      obtain ⟨right, rightFound⟩ := Option.isSome_iff_exists.mp secondAlive
      have leftId := Heap.id_eq_of_find? leftFound
      have rightId := Heap.id_eq_of_find? rightFound
      rw [resolve_eq_ok_iff.mpr ⟨by rw [leftId, resolved], by rw [leftId, leftFound]⟩,
        resolve_eq_ok_iff.mpr ⟨by rw [rightId, ← idEq], by rw [rightId, rightFound]⟩]
      rw [Heap.content?, Heap.content?, leftFound, rightFound] at alike
      cases alike with
      | some here => exact .ok ⟨leftId.trans rightId.symm, here.type, here.state_eq⟩

end ObjectBridge
