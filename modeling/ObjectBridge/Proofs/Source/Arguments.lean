import ObjectBridge.Proofs.Bridge.Signatures
import ObjectBridge.Proofs.Source.Exports
import ObjectBridge.Sample.Counter
import ObjectBridge.Source.Meaning

/-!
# Registered bodies read their own arguments

A registration has four lists that run in parallel: the declared kinds, the readings of the
arguments, the names that these are bound to, and the expressions that the function is called
with.  They agree position by position with the parameters of the function, so a body that
gets what the dispatcher passes does nothing but call its function with it.
-/

namespace ObjectBridge

/-- A value is read as its own kind. -/
theorem Value.extractAs_kind (value : Value) : value.extractAs value.kind = .ok value := by
  cases value <;> rfl

/-- What is received is of the declared kinds. -/
theorem Passed.map_kind {parameters : List Kind} {arguments received : List Value}
    (passed : Passed parameters arguments received) : received.map Value.kind = parameters := by
  apply List.ext_getElem?
  intro index
  rw [List.getElem?_map]
  cases parameterEq : parameters[index]? with
  | none =>
      rw [List.getElem?_eq_none_iff, ← passed.length_eq, ← List.getElem?_eq_none_iff] at parameterEq
      rw [parameterEq, Option.map_none]
  | some parameter =>
      obtain ⟨_, value, _, receivedEq, _, kindEq⟩ := passed.received_eq index parameter parameterEq
      rw [receivedEq, Option.map_some, kindEq]

namespace Source

/-! ## Names -/

theorem toList_binder (index : Nat) :
    (Member.binder index).toList = 'a' :: 'r' :: 'g' :: Nat.toDigits 10 index := by
  simp [Member.binder]

/-- Arguments at different positions are bound to different names. -/
theorem binder_injective {first second : Nat}
    (same : Member.binder first = Member.binder second) : first = second := by
  have lists := congrArg String.toList same
  rw [toList_binder, toList_binder] at lists
  have digits : Nat.toDigits 10 first = Nat.toDigits 10 second := by simpa using lists
  calc
    first = Nat.ofDigitChars 10 (Nat.toDigits 10 first) 0 := Nat.ofDigitChars_ten_toDigits.symm
    _ = Nat.ofDigitChars 10 (Nat.toDigits 10 second) 0 := by rw [digits]
    _ = second := Nat.ofDigitChars_ten_toDigits

/-- No argument is bound to a name that begins otherwise than their names do. -/
theorem binder_ne {name : String} (index : Nat) (other : name.toList.take 3 ≠ ['a', 'r', 'g']) :
    Member.binder index ≠ name := by
  rintro rfl
  rw [toList_binder] at other
  exact other rfl

theorem binder_ne_args (index : Nat) : Member.binder index ≠ "args" := by
  intro same
  have lists := congrArg String.toList same
  rw [toList_binder] at lists
  have digits : Nat.toDigits 10 index = ['s'] := by simpa using lists
  have digit : 's'.isDigit = true := by
    refine Nat.isDigit_of_mem_toDigits (n := index) (Nat.succ_pos 9) (Nat.le_refl 10) ?_
    rw [digits]
    exact List.mem_singleton_self _
  contradiction

/-! ## The parallel lists -/

namespace Member

variable (member : Member)

/-- Each argument is read as the type of its parameter and bound to the name of its
position. -/
theorem extractions_eq :
    member.extractions = member.types.mapIdx fun index type => ⟨binder index, type, index⟩ := by
  apply List.ext_getElem
  · simp [extractions, binders]
  · intro index inExtractions inTypes
    simp [extractions, binders]

theorem length_binders : member.binders.length = member.types.length := by
  rw [binders, List.length_map, List.length_range]

theorem getElem?_binders {index : Nat} (inside : index < member.types.length) :
    member.binders[index]? = some (binder index) := by
  rw [binders, List.getElem?_map, List.getElem?_range inside, Option.map_some]

end Member

/-! ## Reading the arguments -/

namespace Scope

variable {σ : Type} {scope outer : Scope σ} {received : List Value} {count : Nat}

/-- The names of the first arguments stand for what was received at their positions, and all
names that are not made for arguments stand for what they did outside. -/
structure Binds (scope outer : Scope σ) (received : List Value) (count : Nat) : Prop where
  bound : ∀ index value, index < count → received[index]? = some value →
    scope.lookup (Member.binder index) = some (.member value)
  outer_eq : ∀ name, (∀ index, Member.binder index ≠ name) →
    scope.lookup name = outer.lookup name

theorem binds_outer (outer : Scope σ) (received : List Value) : outer.Binds outer received 0 where
  bound _ _ absurdity := absurd absurdity (Nat.not_lt_zero _)
  outer_eq _ _ := rfl

theorem Binds.push (binds : scope.Binds outer received count) {value : Value}
    (receivedEq : received[count]? = some value) :
    Binds ((Member.binder count, .member value) :: scope) outer received (count + 1) where
  bound index other below otherEq := by
    by_cases last : index = count
    · subst last
      rw [receivedEq] at otherEq
      cases otherEq
      exact List.lookup_cons_self
    · have different : Member.binder index ≠ Member.binder count := mt binder_injective last
      rw [List.lookup_cons, beq_false_of_ne different]
      exact binds.bound index other (by omega) otherEq
  outer_eq name foreign := by
    rw [List.lookup_cons, beq_false_of_ne (foreign count).symm]
    exact binds.outer_eq name foreign

/-- Reading arguments of the kinds that are declared neither faults nor panics, and binds
each to the name of its position. -/
theorem Binds.extract {kind : String → Kind} {list : String} {types : List String}
    (binds : scope.Binds outer received count)
    (listEq : outer.lookup list = some (.arguments received))
    (foreign : ∀ index, Member.binder index ≠ list)
    (kinds : ∀ index type, types[index]? = some type →
      ∃ value, received[count + index]? = some value ∧ value.kind = kind type) :
    ∃ final, Binds final outer received (count + types.length) ∧
      ∀ {τ α : Type} (next : Scope σ → Program τ α),
        Source.extract kind list
          (types.mapIdx fun index type => ⟨Member.binder (count + index), type, count + index⟩)
          scope next = next final := by
  induction types generalizing scope count with
  | nil => exact ⟨scope, binds, fun next => rfl⟩
  | cons type rest ih =>
      obtain ⟨value, receivedEq, kindEq⟩ := kinds 0 type rfl
      obtain ⟨final, finalBinds, runs⟩ := ih (binds.push receivedEq) fun index other otherEq => by
        obtain ⟨next, nextEq, nextKind⟩ := kinds (index + 1) other otherEq
        rw [← Nat.add_assoc, Nat.add_right_comm] at nextEq
        exact ⟨next, nextEq, nextKind⟩
      refine ⟨final, ?_, ?_⟩
      · rw [List.length_cons, ← Nat.add_assoc, Nat.add_right_comm]
        exact finalBinds
      · intro τ α next
        have argumentsEq : scope.arguments list = received := by
          rw [Scope.arguments, binds.outer_eq list foreign, listEq]
        have readEq : value.extractAs (kind type) = .ok value := by
          rw [← kindEq]
          exact value.extractAs_kind
        have shift : (fun index type => (⟨Member.binder (count + (index + 1)), type,
            count + (index + 1)⟩ : Extraction)) = fun index type =>
              ⟨Member.binder (count + 1 + index), type, count + 1 + index⟩ := by
          funext index type
          rw [Nat.add_right_comm, Nat.add_assoc]
        rw [List.mapIdx_cons, shift, Source.extract, argumentsEq, Program.withArgument]
        rw [Nat.add_zero] at receivedEq ⊢
        simp only [receivedEq, readEq, Program.ofChecked]
        exact runs next

private theorem mapM_of_forall₂ {α β : Type} {read : α → Option β} {expressions : List α}
    {values : List β} (reads : List.Forall₂ (fun expression value => read expression = some value)
      expressions values) : expressions.mapM read = some values := by
  induction reads with
  | nil => rfl
  | cons first _ ih =>
      rw [List.mapM_cons, first, ih]
      rfl

/-- Once all arguments are read, their names stand for what was received. -/
theorem Binds.values (binds : scope.Binds outer received count) {member : Member}
    (countEq : count = member.types.length) (lengthEq : received.length = member.types.length) :
    member.binders.mapM scope.value? = some received := by
  apply mapM_of_forall₂
  rw [List.forall₂_iff_get]
  refine ⟨member.length_binders.trans lengthEq.symm, ?_⟩
  intro index inBinders inReceived
  have inside : index < member.types.length := lengthEq ▸ inReceived
  have binderEq : member.binders.get ⟨index, inBinders⟩ = Member.binder index :=
    Option.some.inj ((List.getElem?_eq_getElem inBinders).symm.trans
      (member.getElem?_binders inside))
  have found := binds.bound index _ (countEq ▸ inside) (List.getElem?_eq_getElem inReceived)
  rw [binderEq, Scope.value?, Scope.meant?, if_neg (binder_ne index (by decide)), found]
  rfl

end Scope

/-! ## Registered bodies -/

namespace Member

variable {σ : Type} {member : Member} {received : List Value}

theorem binder_ne_listName (member : Member) (index : Nat) : binder index ≠ member.listName := by
  rw [listName]
  split
  · exact binder_ne index (by decide)
  · exact binder_ne_args index

/-- What a registered body has read when it calls its function. -/
private theorem exists_scope {kind : String → Kind} (outer : Scope σ)
    (listEq : outer.lookup member.listName = some (.arguments received))
    (kindsEq : received.map Value.kind = member.types.map kind) :
    ∃ final : Scope σ, (∀ name, (∀ index, binder index ≠ name) →
        final.lookup name = outer.lookup name) ∧
      member.binders.mapM final.value? = some received ∧
      ∀ {τ α : Type} (next : Scope σ → Program τ α),
        extract kind member.listName member.extractions outer next = next final := by
  have lengthEq : received.length = member.types.length := by
    simpa using congrArg List.length kindsEq
  have kinds (index : Nat) (type : String) (typeEq : member.types[index]? = some type) :
      ∃ value, received[0 + index]? = some value ∧ value.kind = kind type := by
    have kindEq := congrArg (·[index]?) kindsEq
    simp only [List.getElem?_map, typeEq, Option.map_some, Option.map_eq_some_iff] at kindEq
    rwa [Nat.zero_add]
  obtain ⟨final, binds, runs⟩ :=
    (Scope.binds_outer outer received).extract listEq member.binder_ne_listName kinds
  refine ⟨final, binds.outer_eq, binds.values (Nat.zero_add _) lengthEq, ?_⟩
  intro τ α next
  simp only [Nat.zero_add] at runs
  rw [extractions_eq]
  exact runs next

/-- A registered constructor that gets values of the declared kinds calls its function with
them. -/
theorem construct_registration {fallible : Bool} (meaning : Meaning σ)
    (kindEq : member.kind = .constructor fallible)
    (kindsEq : received.map Value.kind = member.types.map meaning.kind) :
    member.registration.construct meaning received =
      meaning.construct member.registration.callee received := by
  have closureEq : member.registration.closure = [member.listName] := by
    simp only [registration, kindEq]
  have argumentsEq : member.registration.arguments = member.binders := by
    simp only [registration, kindEq]
  let outer : Scope σ := [(member.listName, .arguments received)]
  obtain ⟨final, _, valuesEq, runs⟩ := exists_scope outer List.lookup_cons_self kindsEq
  rw [Registration.construct, Registration.listName, closureEq, argumentsEq]
  refine (runs _).trans ?_
  simp only [valuesEq]

/-- A registered method that gets values of the declared kinds calls its function with its
receiver and them. -/
theorem call_registration {name : String} {receiver : MethodReceiver} (meaning : Meaning σ)
    (kindEq : member.kind = .method name receiver)
    (kindsEq : received.map Value.kind = member.types.map meaning.kind) (state : σ) :
    member.registration.call meaning state received =
      meaning.call member.registration.callee state received := by
  have closureEq : member.registration.closure = ["this", member.listName] := by
    simp only [registration, kindEq]
  have thisNe : member.listName ≠ "this" := by
    rw [listName]
    split <;> decide
  let outer : Scope σ := [("this", .receiver state), (member.listName, .arguments received)]
  have listEq : outer.lookup member.listName = some (.arguments received) := by
    rw [List.lookup_cons, beq_false_of_ne thisNe]
    exact List.lookup_cons_self
  obtain ⟨final, outerEq, valuesEq, runs⟩ := exists_scope outer listEq kindsEq
  have thisEq : final.lookup "this" = some (.receiver state) :=
    (outerEq "this" fun index => binder_ne index (by decide)).trans List.lookup_cons_self
  rw [Registration.call, Registration.listName, closureEq]
  refine (runs _).trans ?_
  cases receiver with
  | shared =>
      have argumentsEq : member.registration.arguments = "&*this" :: member.binders := by
        simp only [registration, kindEq]
      have receiverEq : final.receiver? "&*this" = some state := by
        rw [Scope.receiver?, Scope.meant?, if_pos rfl, thisEq]
      simp only [argumentsEq, receiverEq, valuesEq]
  | mutable =>
      have argumentsEq : member.registration.arguments = "this" :: member.binders := by
        simp only [registration, kindEq]
      have receiverEq : final.receiver? "this" = some state := by
        rw [Scope.receiver?, Scope.meant?, if_neg (by decide), thisEq]
      simp only [argumentsEq, receiverEq, valuesEq]

end Member

/-! ## The lists of a registration -/

/-- How a call refers to its receiver. -/
def MethodReceiver.expression : MethodReceiver → String
  | shared => "&*this"
  | mutable => "this"

/-- What a registered function is called with besides its receiver. -/
def Registration.passed (registration : Registration) : List String :=
  match registration.kind with
  | .constructor _ => registration.arguments
  | .method _ _ => registration.arguments.tail

/-- The lists of a registration agree with the parameters of a function: each parameter has
one declared type, one reading of the argument at its position as that type, and one
expression that stands for what was read. -/
structure FunctionItem.ReadBy (item : FunctionItem) (registration : Registration) : Prop where
  length_declared : registration.declared.length = item.parameters.length
  length_extractions : registration.extractions.length = item.parameters.length
  length_passed : registration.passed.length = item.parameters.length
  declared_eq : ∀ (index : Nat) (parameter : Parameter),
    item.parameters[index]? = some parameter →
    registration.declared[index]? = some parameter.type
  extraction_eq : ∀ (index : Nat) (parameter : Parameter),
    item.parameters[index]? = some parameter →
    registration.extractions[index]? = some ⟨Member.binder index, parameter.type, index⟩
  passed_eq : ∀ (index : Nat) (parameter : Parameter),
    item.parameters[index]? = some parameter →
    registration.passed[index]? = some (Member.binder index)
  receiver_eq : ∀ (name : String) (receiver : MethodReceiver),
    registration.kind = .method name receiver →
    registration.arguments = receiver.expression :: registration.passed

theorem Member.passed_registration (member : Member) :
    member.registration.passed = member.binders := by
  cases kindEq : member.kind with
  | constructor fallible => simp only [Registration.passed, registration, kindEq]
  | method name receiver =>
      cases receiver <;> simp only [Registration.passed, registration, kindEq, List.tail_cons]

theorem FunctionItem.Exports.readBy {item : FunctionItem} {member : Member}
    (exports : item.Exports member) : item.ReadBy member.registration := by
  have lengthEq : member.types.length = item.parameters.length := by
    rw [exports.types_eq, List.length_map]
  have typeEq (index : Nat) (parameter : Parameter)
      (parameterEq : item.parameters[index]? = some parameter) :
      member.types[index]? = some parameter.type := by
    rw [exports.types_eq, List.getElem?_map, parameterEq, Option.map_some]
  refine ⟨lengthEq, ?_, ?_, typeEq, ?_, ?_, ?_⟩
  · change member.extractions.length = _
    rw [member.extractions_eq, List.length_mapIdx, lengthEq]
  · rw [member.passed_registration, member.length_binders, lengthEq]
  · intro index parameter parameterEq
    change member.extractions[index]? = _
    rw [member.extractions_eq, List.getElem?_mapIdx, typeEq index parameter parameterEq,
      Option.map_some]
  · intro index parameter parameterEq
    rw [member.passed_registration]
    refine member.getElem?_binders ?_
    rw [lengthEq]
    exact (List.getElem?_eq_some_iff.mp parameterEq).1
  · intro name receiver kindEq
    have memberKind : member.kind = .method name receiver := kindEq
    rw [member.passed_registration]
    cases receiver <;> simp only [Member.registration, memberKind, MethodReceiver.expression]

/-! ## Dispatch -/

section Dispatch

variable {σ : Type} [StateType σ] {properties : List Token} {block : Block}
  {expansion : Expansion} {arguments received : List Value}

theorem exists_member (expands : expand properties block = .ok expansion)
    {registration : Registration} (registered : registration ∈ expansion.registrations) :
    ∃ member : Member, registration = member.registration := by
  obtain ⟨found, _, registrationsEq⟩ := expand_eq_ok expands
  rw [registrationsEq] at registered
  obtain ⟨member, _, memberEq⟩ := List.mem_map.mp registered
  exact ⟨member, memberEq.symm⟩

/-- A constructor of an exported block does what the function of a registration does with
what the constructor receives. -/
theorem exists_constructor (expands : expand properties block = .ok expansion)
    (meaning : Meaning σ) {constructor : ConstructorInfo}
    (declared : constructor ∈ (expansion.type meaning).constructors)
    (passed : Passed constructor.parameters arguments received) :
    ∃ registration ∈ expansion.registrations,
      (∃ fallible, registration.kind = .constructor fallible) ∧
      Passed (registration.declared.map meaning.kind) arguments received ∧
      constructor.body received = (meaning.constructor registration).erase.body received := by
  obtain ⟨source, sourceMem, rfl⟩ := List.mem_map.mp declared
  obtain ⟨registration, registered, sourceEq⟩ := List.mem_filterMap.mp sourceMem
  obtain ⟨member, rfl⟩ := exists_member expands registered
  rw [Registration.constructor?] at sourceEq
  split at sourceEq
  · rename_i fallible kindEq
    cases sourceEq
    refine ⟨_, registered, ⟨fallible, kindEq⟩, passed, ?_⟩
    have direct := Member.construct_registration meaning kindEq passed.map_kind
    simp only [TypedConstructor.erase, direct, Meaning.constructor]
  · contradiction

/-- A method of an exported block does what the function of a registration of its name does
with what the method receives. -/
theorem exists_method (expands : expand properties block = .ok expansion)
    (meaning : Meaning σ) {info : MethodInfo}
    (declared : info ∈ (expansion.type meaning).methods)
    (passed : Passed info.parameters arguments received) :
    ∃ registration ∈ expansion.registrations,
      (∃ receiver, registration.kind = .method info.name receiver) ∧
      Passed (registration.declared.map meaning.kind) arguments received ∧
      ∀ state, info.body state received =
        (meaning.method info.name registration).erase.body state received := by
  obtain ⟨source, sourceMem, rfl⟩ := List.mem_map.mp declared
  obtain ⟨registration, registered, sourceEq⟩ := List.mem_filterMap.mp sourceMem
  obtain ⟨member, rfl⟩ := exists_member expands registered
  rw [Registration.method?] at sourceEq
  split at sourceEq
  · contradiction
  · rename_i name receiver kindEq
    cases sourceEq
    refine ⟨_, registered, ⟨receiver, kindEq⟩, passed, ?_⟩
    intro state
    have direct := Member.call_registration meaning kindEq passed.map_kind
    simp only [TypedMethod.erase, direct, Meaning.method]

/-- In the registrations of a block, declared types, readings and call expressions belong
position by position to the parameters of the functions.  So whatever the functions are, a
constructor that is selected and a method that its arguments can be passed for run as if
their functions were called directly with each argument coerced to the kind of its parameter:
no reading goes past the arguments or is of the wrong kind, and none is taken for another. -/
theorem bodies_read_their_arguments (expands : expand properties block = .ok expansion)
    (meaning : Meaning σ) (services : Services) (bridge : Bridge) (arguments : List Value) :
    List.Forall₂ FunctionItem.ReadBy (block.functions.filter FunctionItem.isExported)
      expansion.registrations ∧
    (∀ typeName mode constructor,
      bridge.registry.findType? typeName = some (expansion.type meaning) →
      (expansion.type meaning).selectConstructor arguments = .ok constructor →
      ∃ registration ∈ expansion.registrations, ∃ received,
        (∃ fallible, registration.kind = .constructor fallible) ∧
        Passed (registration.declared.map meaning.kind) arguments received ∧
        Bridge.createWith services typeName arguments mode bridge =
          Bridge.runConstruction services
            ⟨expansion.type meaning, (expansion.type meaning).constructorSignature constructor,
              (meaning.constructor registration).erase.body received⟩ mode bridge) ∧
    ∀ token method object info received,
      bridge.resolve token = .ok object → object.type = expansion.type meaning →
      object.type.findMethod? method arguments.length = some info →
      bindArguments (object.type.methodSignature info) info.parameters arguments = .ok received →
      ∃ registration ∈ expansion.registrations,
        (∃ receiver, registration.kind = .method method receiver) ∧
        Passed (registration.declared.map meaning.kind) arguments received ∧
        Bridge.invokeWith services token method arguments bridge =
          Bridge.runInvocation services
            ⟨object.id, object.type.methodSignature info,
              (meaning.method method registration).erase.body object.state received⟩ bridge := by
  refine ⟨?_, ?_, ?_⟩
  · obtain ⟨found, collected, registrationsEq⟩ := expand_eq_ok expands
    rw [registrationsEq, List.forall₂_map_right_iff]
    exact (exports_of_members collected).imp fun _ _ exports => exports.readBy
  · intro typeName mode constructor found selected
    cases Bridge.creation services bridge typeName arguments mode with
    | unknown absent _ =>
        rw [found] at absent
        contradiction
    | refused otherFound refusal _ =>
        rw [found] at otherFound
        cases otherFound
        rw [selected] at refusal
        contradiction
    | runs otherFound otherSelected declared passed runs =>
        rw [found] at otherFound
        cases otherFound
        rw [selected] at otherSelected
        cases otherSelected
        obtain ⟨registration, registered, kindEq, ownPassed, bodyEq⟩ :=
          exists_constructor expands meaning declared passed
        exact ⟨registration, registered, _, kindEq, ownPassed, by rw [runs, bodyEq]⟩
  · intro token method object info received resolved typeEq found bound
    obtain ⟨declared, nameEq, lengthEq⟩ := TypeDescriptor.of_findMethod? found
    have passed := passed_of_bindFrom lengthEq.symm bound
    rw [typeEq] at declared
    obtain ⟨registration, registered, kindEq, ownPassed, bodyEq⟩ :=
      exists_method expands meaning declared passed
    rw [nameEq] at kindEq bodyEq
    refine ⟨registration, registered, kindEq, ownPassed, ?_⟩
    rw [Bridge.invokeWith, Run.get_bind, resolved, ← bodyEq]
    simp only [Bridge.prepareInvocation, found, bound]
    rfl

end Dispatch

/-- What the functions of the sample block do: begin with a number, and add to it. -/
def tally : Meaning Sample.Counter where
  kind type := if type = "u8" then .byte else .int
  construct
    | "Self::of", [.byte number] => .done ⟨.ofNat number.toNat⟩
    | _, _ => .panic (.text "no such constructor")
  call
    | "Self::add", counter, [.int number] => Sample.Counter.become (counter.count + number.toInt64)
    | _, _, _ => .panic (.text "no such method")

/-- The sample block exported. -/
def tallyExpansion : Expansion where
  typeName := "T"
  selfType := "T"
  functions := tallyBlock.functions.map FunctionItem.withoutMarkers
  registrations :=
    [ ⟨.constructor false, ["u8"], ["args"], [⟨"arg0", "u8", 0⟩], "Self::of", ["arg0"]⟩,
      ⟨.method "Add" .mutable, ["i32"], ["this", "args"], [⟨"arg0", "i32", 0⟩], "Self::add",
        ["this", "arg0"]⟩,
      ⟨.method "Get" .shared, [], ["this", "_args"], [], "Self::at", ["&*this"]⟩ ]

/-- A tally begins with the number that it is given, and a short number that is added to it
comes as an integer. -/
theorem bodies_read_their_arguments_tally :
    let type := tallyExpansion.type tally
    let bridge := (Machine.proceed (.create "T" [.byte 5] .owning) 2
      (.start .defaults ⟨[], [("T", type)]⟩)).2.bridge
    expand [] tallyBlock = .ok tallyExpansion ∧
    List.Forall₂ FunctionItem.ReadBy (tallyBlock.functions.filter FunctionItem.isExported)
      tallyExpansion.registrations ∧
    (∃ registration ∈ tallyExpansion.registrations, ∃ received,
      Passed (registration.declared.map tally.kind) [.byte 7] received ∧
      Bridge.createWith (Bridge.services 0) "T" [.byte 7] .weak bridge =
        Bridge.runConstruction (Bridge.services 0)
          ⟨type, "T..ctor(byte)", (tally.constructor registration).erase.body received⟩ .weak
          bridge) ∧
    ∃ registration ∈ tallyExpansion.registrations,
      Passed (registration.declared.map tally.kind) [.short 2] [.int 2] ∧
      Bridge.invokeWith (Bridge.services 0) (.ofSlot 0 0) "Add" [.short 2] bridge =
        Bridge.runInvocation (Bridge.services 0)
          ⟨⟨1⟩, "T.Add(int)",
            (tally.method "Add" registration).erase.body ⟨"Counter", [.long 5]⟩ [.int 2]⟩
          bridge := by
  intro type bridge
  have expands : expand [] tallyBlock = .ok tallyExpansion := rfl
  have created := bodies_read_their_arguments expands tally (Bridge.services 0) bridge [.byte 7]
  have invoked := bodies_read_their_arguments expands tally (Bridge.services 0) bridge [.short 2]
  have resolved : bridge.resolve (.ofSlot 0 0) = .ok ⟨⟨1⟩, type, ⟨"Counter", [.long 5]⟩, 2⟩ := rfl
  obtain ⟨made, madeMem, received, _, madePassed, runs⟩ := created.2.1 "T" .weak _ rfl rfl
  obtain ⟨called, calledMem, _, calledPassed, calls⟩ :=
    invoked.2.2 _ "Add" _ _ [.int 2] resolved rfl rfl rfl
  exact ⟨expands, created.1, ⟨made, madeMem, received, madePassed, runs⟩,
    called, calledMem, calledPassed, calls⟩

end Source

end ObjectBridge
