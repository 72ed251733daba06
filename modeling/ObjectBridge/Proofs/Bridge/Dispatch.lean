import Mathlib.Logic.Equiv.Defs
import Mathlib.Order.Fin.Basic
import ObjectBridge.Proofs.Bridge.Retyping
import ObjectBridge.Proofs.Reflect.Selection

/-!
# Dispatch looks at one declaration

A call is dispatched by its name and by the number of its arguments.  The first declared
method with both is bound to the arguments, whether or not a later one would fit them
better, and no other declaration takes part: neither in the choice nor in the binding nor
in the texts of errors.  So declarations may be edited as long as the first one that
answers stays the same.

An edit is made to the descriptor of the object that is called, and what bodies reach in
turn is a parameter, the same before and after.  Methods may also be reordered in all types
of a bridge at once: nested calls do not notice that either.
-/

namespace ObjectBridge

/-- A reordering of declared methods that keeps the relative order of any two which have
both their name and their number of parameters in common. -/
structure Reordering (declared reordered : List MethodInfo) where
  /-- Where each declaration goes. -/
  place : Fin declared.length ≃ Fin reordered.length
  get_place : ∀ position, reordered.get (place position) = declared.get position
  place_lt_place : ∀ earlier later, earlier < later →
    (declared.get earlier).name = (declared.get later).name →
    (declared.get earlier).parameters.length = (declared.get later).parameters.length →
    place earlier < place later

/-- Leaving every declaration in its place. -/
def Reordering.refl (methods : List MethodInfo) : Reordering methods methods where
  place := Equiv.refl _
  get_place _ := rfl
  place_lt_place _ _ before _ _ := before

/-- The object as if other methods were declared for its type. -/
def HeapObject.withMethods (object : HeapObject) (methods : List MethodInfo) : HeapObject :=
  { object with type := { object.type with methods } }

/-! ## The first declaration -/

section FirstDeclaration

variable {name : String} {arity : Nat} {method : MethodInfo}

/-- What a search finds answers, and nothing at an earlier position does. -/
private theorem find?_eq_some_iff_get {declared : List MethodInfo} :
    declared.find? (·.answers name arity) = some method ↔
      ∃ first : Fin declared.length, declared.get first = method ∧
        method.answers name arity = true ∧
        ∀ position < first, (declared.get position).answers name arity = false := by
  rw [List.find?_eq_some_iff_getElem]
  constructor
  · rintro ⟨answers, first, bound, getEq, earlier⟩
    refine ⟨⟨first, bound⟩, getEq, answers, fun position before => ?_⟩
    simpa using earlier position before
  · rintro ⟨first, getEq, answers, earlier⟩
    refine ⟨answers, first, first.isLt, getEq, fun position before => ?_⟩
    simpa using earlier ⟨position, Nat.lt_trans before first.isLt⟩ before

namespace Reordering

variable {declared reordered : List MethodInfo} (reordering : Reordering declared reordered)

include reordering

/-- If the first declaration that answers is preceded by another after a reordering, then
the other does not answer. -/
private theorem not_answers_of_place_lt {first origin : Fin declared.length}
    (answers : (declared.get first).answers name arity = true)
    (earlier : ∀ position < first, (declared.get position).answers name arity = false)
    (before : reordering.place origin < reordering.place first) :
    (declared.get origin).answers name arity = false := by
  rw [Bool.eq_false_iff]
  intro originAnswers
  rcases lt_trichotomy origin first with precedes | same | follows
  · exact Bool.false_ne_true ((earlier origin precedes).symm.trans originAnswers)
  · rw [same] at before
    exact lt_irrefl _ before
  · obtain ⟨firstName, firstArity⟩ := MethodInfo.answers_iff.mp answers
    obtain ⟨originName, originArity⟩ := MethodInfo.answers_iff.mp originAnswers
    have after := reordering.place_lt_place first origin follows
      (firstName.trans originName.symm) (firstArity.trans originArity.symm)
    exact lt_asymm before after

/-- A reordering leaves the first declaration that answers the first one. -/
theorem find?_eq (name : String) (arity : Nat) :
    reordered.find? (·.answers name arity) = declared.find? (·.answers name arity) := by
  cases found : declared.find? (·.answers name arity) with
  | none =>
      rw [List.find?_eq_none] at found ⊢
      intro method member
      obtain ⟨position, rfl⟩ := List.mem_iff_get.mp member
      obtain ⟨origin, rfl⟩ := reordering.place.surjective position
      rw [reordering.get_place]
      exact found _ (List.get_mem _ _)
  | some method =>
      obtain ⟨first, rfl, answers, earlier⟩ := find?_eq_some_iff_get.mp found
      refine find?_eq_some_iff_get.mpr
        ⟨reordering.place first, reordering.get_place first, answers, ?_⟩
      intro position before
      obtain ⟨origin, rfl⟩ := reordering.place.surjective position
      rw [reordering.get_place]
      exact reordering.not_answers_of_place_lt answers earlier before

end Reordering

/-- Reordering the methods of all types keeps the body of every call. -/
theorem keepsBodies_of_reorderings {edit : TypeDescriptor → TypeDescriptor}
    (reorders : ∀ type, (edit type).name = type.name ∧
      (edit type).constructors = type.constructors ∧
      Nonempty (Reordering type.methods (edit type).methods)) : KeepsBodies edit where
  name_eq type := (reorders type).1
  constructors_eq type := (reorders type).2.1
  findMethod?_eq type name arity := by
    obtain ⟨_, _, ⟨reordering⟩⟩ := reorders type
    exact reordering.find?_eq name arity

/-- An inserted method is found only by its own name and number of parameters, and only if
no declaration before it is. -/
theorem find?_insert {before after : List MethodInfo} {inserted : MethodInfo}
    (unaffected : inserted.answers name arity = true →
      ∃ earlier ∈ before, earlier.answers name arity = true) :
    (before ++ inserted :: after).find? (·.answers name arity) =
      (before ++ after).find? (·.answers name arity) := by
  rw [List.find?_append, List.find?_append, List.find?_cons]
  cases answers : inserted.answers name arity with
  | false => rfl
  | true =>
      obtain ⟨earlier, member, earlierAnswers⟩ := unaffected answers
      obtain ⟨found, foundEq⟩ := Option.isSome_iff_exists.mp
        (List.find?_isSome (p := (·.answers name arity)).mpr ⟨earlier, member, earlierAnswers⟩)
      rw [foundEq]
      rfl

end FirstDeclaration

/-! ## Dispatch -/

namespace Bridge

variable {services : Services} {bridge : Bridge} {object : HeapObject} {name : String}
  {arguments : List Value} {methods : List MethodInfo}

/-- Call a method of an object. -/
def dispatch (services : Services) (object : HeapObject) (name : String)
    (arguments : List Value) : Run (Except BridgeError (Option Value)) :=
  match prepareInvocation object name arguments with
  | .error cause => pure (.error (.dispatch cause))
  | .ok invocation => runInvocation services invocation

/-- A call through a token is dispatched to the object that the token leads to. -/
theorem invokeWith_eq_dispatch {token : Token} (resolved : bridge.resolve token = .ok object) :
    invokeWith services token name arguments bridge =
      dispatch services object name arguments bridge := by
  rw [invokeWith, Run.get_bind, resolved]
  rfl

theorem prepareInvocation_withMethods
    (sameFirst : methods.find? (·.answers name arguments.length) =
      object.type.findMethod? name arguments.length) :
    prepareInvocation (object.withMethods methods) name arguments =
      prepareInvocation object name arguments := by
  have foundEq : (object.withMethods methods).type.findMethod? name arguments.length =
      object.type.findMethod? name arguments.length := sameFirst
  rw [prepareInvocation, prepareInvocation, foundEq]
  rfl

/-- Dispatch does not change if the first declaration that answers does not. -/
theorem dispatch_withMethods
    (sameFirst : methods.find? (·.answers name arguments.length) =
      object.type.findMethod? name arguments.length) :
    dispatch services (object.withMethods methods) name arguments =
      dispatch services object name arguments := by
  rw [dispatch, dispatch, prepareInvocation_withMethods sameFirst]

/-- A call that no declaration answers ends with its name and its number of arguments. -/
theorem dispatch_of_findMethod?_eq_none
    (missing : object.type.findMethod? name arguments.length = none) :
    dispatch services object name arguments bridge =
      .ok (.error (.dispatch (.missingMethod object.type.name name arguments.length)), bridge) := by
  rw [dispatch, prepareInvocation, missing]
  rfl

/-- An inserted method changes only calls that no declaration before it answers, by its
own name and with as many arguments as it has parameters. -/
theorem answers_of_dispatch_ne {before after : List MethodInfo} {inserted : MethodInfo}
    (declared : object.type.methods = before ++ after)
    (changed : dispatch services (object.withMethods (before ++ inserted :: after)) name
        arguments bridge ≠ dispatch services object name arguments bridge) :
    inserted.answers name arguments.length = true ∧
      ∀ earlier ∈ before, earlier.answers name arguments.length = false := by
  by_contra reached
  refine changed (congrFun (dispatch_withMethods ?_) bridge)
  rw [TypeDescriptor.findMethod?, declared]
  refine find?_insert fun answers => ?_
  by_contra none
  refine reached ⟨answers, fun earlier member => ?_⟩
  exact Bool.eq_false_iff.mpr fun earlierAnswers => none ⟨earlier, member, earlierAnswers⟩

/-- Appended methods change no call that a declaration answers. -/
theorem dispatch_append (appended : List MethodInfo)
    (answered : ∀ after, dispatch services object name arguments bridge ≠
      .ok (.error (.dispatch (.missingMethod object.type.name name arguments.length)), after)) :
    dispatch services (object.withMethods (object.type.methods ++ appended)) name arguments
        bridge = dispatch services object name arguments bridge := by
  refine congrFun (dispatch_withMethods ?_) bridge
  rw [List.find?_append]
  cases found : object.type.findMethod? name arguments.length with
  | none => exact absurd (dispatch_of_findMethod?_eq_none found) (answered bridge)
  | some method =>
      rw [TypeDescriptor.findMethod?] at found
      rw [found]
      rfl

/-- A call is dispatched by the first declaration with its name and its number of
arguments, and by no other.  A reordering that keeps methods of one name and one number of
parameters in order changes no call: neither its answer nor what becomes of the bridge nor
its error, also if the methods of all types are reordered.  An insertion changes only calls
by the name and with the number of parameters of the inserted method, and these only if no
declaration before it has both.  Appended methods change only calls that end because there
is no method. -/
theorem dispatch_follows_first_declaration (services : Services) (object : HeapObject)
    (name : String) (arguments : List Value) :
    (∀ bridge token, bridge.resolve token = .ok object →
      invokeWith services token name arguments bridge =
        dispatch services object name arguments bridge) ∧
    dispatch services
        (object.withMethods (object.type.findMethod? name arguments.length).toList)
        name arguments = dispatch services object name arguments ∧
    (∀ reordered, Nonempty (Reordering object.type.methods reordered) →
      dispatch services (object.withMethods reordered) name arguments =
        dispatch services object name arguments) ∧
    (∀ edit : TypeDescriptor → TypeDescriptor,
      (∀ type, (edit type).name = type.name ∧ (edit type).constructors = type.constructors ∧
        Nonempty (Reordering type.methods (edit type).methods)) →
      ∀ depth token bridge,
        (Bridge.services depth).invoke token name arguments (bridge.retype edit) =
          ((Bridge.services depth).invoke token name arguments bridge).map
            fun (outcome, after) => (outcome, after.retype edit)) ∧
    (∀ before inserted after bridge, object.type.methods = before ++ after →
      dispatch services (object.withMethods (before ++ inserted :: after)) name arguments
          bridge ≠ dispatch services object name arguments bridge →
      inserted.name = name ∧ inserted.parameters.length = arguments.length ∧
        ∀ earlier ∈ before,
          ¬(earlier.name = name ∧ earlier.parameters.length = arguments.length)) ∧
    ∀ appended bridge,
      (∀ after, dispatch services object name arguments bridge ≠
        .ok (.error (.dispatch
          (.missingMethod object.type.name name arguments.length)), after)) →
      dispatch services (object.withMethods (object.type.methods ++ appended)) name arguments
        bridge = dispatch services object name arguments bridge := by
  refine ⟨?_, ?_, ?_, ?_, ?_, ?_⟩
  · exact fun _ _ resolved => invokeWith_eq_dispatch resolved
  · refine dispatch_withMethods ?_
    cases found : object.type.findMethod? name arguments.length with
    | none => rfl
    | some method =>
        have answers := List.find?_some found
        exact List.find?_cons_of_pos answers
  · rintro reordered ⟨reordering⟩
    exact dispatch_withMethods (reordering.find?_eq name arguments.length)
  · intro edit reorders depth token bridge
    have keeps := keepsBodies_of_reorderings reorders
    exact (services_indifferent keeps depth).invoke token name arguments bridge
  · intro before inserted after bridge declared changed
    obtain ⟨answers, earlierDoNot⟩ := answers_of_dispatch_ne declared changed
    obtain ⟨nameEq, arityEq⟩ := MethodInfo.answers_iff.mp answers
    refine ⟨nameEq, arityEq, fun earlier member alike => ?_⟩
    exact Bool.false_ne_true
      ((earlierDoNot earlier member).symm.trans (MethodInfo.answers_iff.mpr alike))
  · exact fun appended _ answered => dispatch_append appended answered

/-- Picking a number. -/
def pickNumber : MethodInfo := ⟨"Pick", [.int], fun _ arguments => .done arguments.head?⟩

/-- Picking a truth. -/
def pickTruth : MethodInfo := ⟨"Pick", [.bool], fun _ arguments => .done arguments.head?⟩

/-- Picking nothing. -/
def pickNothing : MethodInfo := ⟨"Pick", [], fun _ _ => .done none⟩

/-- A type that can pick a number, or nothing. -/
def picker : TypeDescriptor where
  name := "Picker"
  constructors := [⟨[], fun _ => .done ⟨"Picker", []⟩⟩]
  methods := [pickNumber, pickNothing]

/-- The other way round. -/
def pickerReordering : Reordering picker.methods [pickNothing, pickNumber] where
  place := Fin.revPerm
  get_place
    | ⟨0, _⟩ => rfl
    | ⟨1, _⟩ => rfl
  place_lt_place := by decide

open Classical in
/-- Declaring the methods of a picker the other way round. -/
noncomputable def turnPicker (type : TypeDescriptor) : TypeDescriptor :=
  if type = picker then { picker with methods := [pickNothing, pickNumber] } else type

/-- A picker refuses a truth, also if picking nothing comes first, for one picker or for
all, or picking a truth comes last.  If picking a truth comes first, it answers. -/
theorem dispatch_follows_first_declaration_picker :
    let bridge := (Machine.proceed (.create "Picker" [] .owning) 2
      (.start .defaults ⟨[], [("Picker", picker)]⟩)).2.bridge
    let object : HeapObject := ⟨⟨1⟩, picker, ⟨"Picker", []⟩, 2⟩
    let pick := fun methods => dispatch (Bridge.services 0) (object.withMethods methods) "Pick"
      [.bool true] bridge
    let refused := Except.ok (Except.error (BridgeError.dispatch
      (.argumentMismatch "Picker.Pick(int)" 0 .int .bool)), bridge)
    invokeWith (Bridge.services 0) (.ofSlot 0 0) "Pick" [.bool true] bridge = refused ∧
    pick [pickNumber] = refused ∧
    pick [pickNothing, pickNumber] = refused ∧
    (Bridge.services 1).invoke (.ofSlot 0 0) "Pick" [.bool true] (bridge.retype turnPicker) =
      refused.map (fun (outcome, after) => (outcome, after.retype turnPicker)) ∧
    pick [pickNumber, pickNothing, pickTruth] = refused ∧
    pick [pickTruth, pickNumber, pickNothing] = .ok (.ok (some (.bool true)), bridge) ∧
    pickTruth.name = "Pick" := by
  intro bridge object pick refused
  obtain ⟨invokes, first, reorders, retypes, inserts, appends⟩ :=
    dispatch_follows_first_declaration (Bridge.services 0) object "Pick" [.bool true]
  have resolved : bridge.resolve (.ofSlot 0 0) = .ok object := rfl
  have outcome : dispatch (Bridge.services 0) object "Pick" [.bool true] bridge = refused := rfl
  have invoked := (invokes bridge _ resolved).trans outcome
  have turns : ∀ type, (turnPicker type).name = type.name ∧
      (turnPicker type).constructors = type.constructors ∧
      Nonempty (Reordering type.methods (turnPicker type).methods) := by
    intro type
    rw [turnPicker]
    split
    · rename_i same
      rw [same]
      exact ⟨rfl, rfl, ⟨pickerReordering⟩⟩
    · exact ⟨rfl, rfl, ⟨.refl type.methods⟩⟩
  have ended : ∀ after, dispatch (Bridge.services 0) object "Pick" [.bool true] bridge ≠
      .ok (.error (.dispatch (.missingMethod "Picker" "Pick" 1)), after) := by
    intro after missing
    cases (Prod.mk.inj (Except.ok.inj (outcome.symm.trans missing))).1
  have picked : dispatch (Bridge.services 0) (object.withMethods (pickTruth :: picker.methods))
      "Pick" [.bool true] bridge = .ok (.ok (some (.bool true)), bridge) := rfl
  refine ⟨invoked, ?_, ?_, ?_, ?_, picked, ?_⟩
  · exact (congrFun first bridge).trans outcome
  · exact (congrFun (reorders _ ⟨pickerReordering⟩) bridge).trans outcome
  · exact (retypes turnPicker turns 1 _ bridge).trans (congrArg (Except.map _) invoked)
  · exact (appends [pickTruth] bridge ended).trans outcome
  · refine (inserts [] pickTruth picker.methods bridge rfl fun same => ?_).1
    cases (Prod.mk.inj (Except.ok.inj (picked.symm.trans (same.trans outcome)))).1

end Bridge

end ObjectBridge
