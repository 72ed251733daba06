import ObjectBridge.Bridge.Exports
import ObjectBridge.Proofs.Bridge.Signatures
import ObjectBridge.Proofs.Native.Defects
import ObjectBridge.Proofs.Reflect.Overloads

/-!
# Defects of calls and requests

What native code asks for may be wrong in its input, in the token that it names, and in
the member that it asks for.  The stages that look for these defects are spread over the
bridge, and the order in which they run decides which one is reported.  Here the order is
written down as a list for each kind of call, and preparing the call is shown to fail
exactly with the first defect of its list that there is.
-/

namespace ObjectBridge

/-! ## Members -/

namespace HeapObject

/-- No method has the name and as many parameters as there are arguments. -/
def lacksMethod (object : HeapObject) (name : String) (arguments : List Value)
    (cause : DispatchError) : Prop :=
  (∀ declared ∈ object.type.methods,
    declared.name = name → declared.parameters.length ≠ arguments.length) ∧
      cause = .missingMethod object.type.name name arguments.length

/-- An argument does not widen to its parameter, and it is the first that does not. -/
def refusesArgument (object : HeapObject) (name : String) (arguments : List Value)
    (cause : DispatchError) : Prop :=
  ∃ declared position expected got,
    object.type.findMethod? name arguments.length = some declared ∧
    FirstMismatch declared.parameters (arguments.map Value.kind) position expected got ∧
    cause = .argumentMismatch (object.type.methodSignature declared) position expected got

variable {object : HeapObject} {name : String} {arguments : List Value}

private theorem findMethod?_eq_none_iff :
    object.type.findMethod? name arguments.length = none ↔
      ∀ declared ∈ object.type.methods,
        declared.name = name → declared.parameters.length ≠ arguments.length := by
  simp [TypeDescriptor.findMethod?, MethodInfo.answers]

/-- A method is bound unless there is none, or it may not be passed an argument. -/
theorem detects_prepareInvocation (object : HeapObject) (name : String)
    (arguments : List Value) :
    Detects [object.lacksMethod name arguments, object.refusesArgument name arguments]
      (Bridge.prepareInvocation object name arguments) := by
  cases found : object.type.findMethod? name arguments.length with
  | none =>
      intro cause
      have lacks := findMethod?_eq_none_iff.mp found
      rw [firstOf_cons_iff, Bridge.prepareInvocation, found]
      constructor
      · intro failed
        cases failed
        exact .inl ⟨lacks, rfl⟩
      · rintro (⟨_, rfl⟩ | ⟨absent, _⟩)
        · rfl
        · exact absurd ⟨lacks, rfl⟩ (absent _)
  | some declared =>
      have binds : Detects [object.refusesArgument name arguments]
          (bindArguments (object.type.methodSignature declared) declared.parameters
            arguments) := by
        refine detects_singleton fun cause => ?_
        rw [bindArguments, bindFrom_eq_error_iff]
        simp [refusesArgument, found]
      have absent : ∀ cause, ¬object.lacksMethod name arguments cause := by
        rintro cause ⟨none, _⟩
        rw [findMethod?_eq_none_iff.mpr none] at found
        contradiction
      rw [Bridge.prepareInvocation, found]
      exact .cons absent (binds.bind fun _ _ => detects_ok)

end HeapObject

namespace TypeDescriptor

/-- No constructor may answer. -/
def lacksConstructor (type : TypeDescriptor) (arguments : List Value) (cause : DispatchError) :
    Prop :=
  type.applicableConstructors arguments = [] ∧
    cause = .missingConstructor type.name arguments.length

/-- There are arguments, and several constructors lead. -/
def tiesConstructors (type : TypeDescriptor) (arguments : List Value) (cause : DispatchError) :
    Prop :=
  arguments ≠ [] ∧ 1 < (type.leadingConstructors arguments).length ∧
    cause = .ambiguousMatch type.name
      ((type.leadingConstructors arguments).map type.constructorSignature)

variable {type : TypeDescriptor} {arguments : List Value}

private theorem applicableConstructors_nil_iff :
    type.applicableConstructors [] = [] ↔
      ∀ declared ∈ type.constructors, declared.parameters ≠ [] := by
  simp [applicableConstructors, applicable_eq_nil_iff]

/-- Selecting a constructor fails because none may answer or because several lead. -/
theorem selectConstructor_eq_error_iff {cause : DispatchError} :
    type.selectConstructor arguments = .error cause ↔
      type.lacksConstructor arguments cause ∨ type.tiesConstructors arguments cause := by
  by_cases empty : arguments = []
  · subst empty
    constructor
    · intro refused
      rcases type.selectConstructor_nil_cases with ⟨chosen, selected⟩ | missing
      · cases selected.symm.trans refused
      · cases missing.symm.trans refused
        have none := selectConstructor_nil_eq_missing_iff.mp missing
        exact .inl ⟨applicableConstructors_nil_iff.mpr none, rfl⟩
    · rintro (⟨none, rfl⟩ | ⟨nonempty, _⟩)
      · exact selectConstructor_nil_eq_missing_iff.mpr (applicableConstructors_nil_iff.mp none)
      · exact absurd rfl nonempty
  · constructor
    · intro refused
      rcases type.selectConstructor_cases arguments with
        ⟨chosen, selected⟩ | missing | ⟨candidates, ambiguous⟩
      · cases selected.symm.trans refused
      · cases missing.symm.trans refused
        have none := (selectConstructor_eq_missing_iff empty).mp missing
        exact .inl ⟨leading_eq_nil_iff.mp none, rfl⟩
      · cases ambiguous.symm.trans refused
        obtain ⟨several, rfl⟩ := (selectConstructor_eq_ambiguous_iff empty).mp ambiguous
        exact .inr ⟨empty, several, rfl⟩
    · rintro (⟨none, rfl⟩ | ⟨_, several, rfl⟩)
      · exact (selectConstructor_eq_missing_iff empty).mpr (leading_eq_nil_iff.mpr none)
      · exact (selectConstructor_eq_ambiguous_iff empty).mpr ⟨several, rfl⟩

/-- A constructor is bound unless none may answer, or several lead. -/
theorem detects_prepareConstruction (type : TypeDescriptor) (arguments : List Value) :
    Detects [type.lacksConstructor arguments, type.tiesConstructors arguments]
      (Bridge.prepareConstruction type arguments) := by
  intro cause
  rw [firstOf_cons_iff, firstOf_singleton_iff, Bridge.prepareConstruction_eq_error_iff,
    selectConstructor_eq_error_iff]
  refine ⟨Or.imp_right fun ties => ⟨?_, ties⟩, Or.imp_right And.right⟩
  rintro other ⟨none, _⟩
  have leadingEq : type.leadingConstructors arguments = [] := leading_eq_nil_iff.mpr none
  rw [tiesConstructors, leadingEq] at ties
  exact absurd ties.2.1 (by simp)

end TypeDescriptor

/-- Tokens are their words. -/
theorem Token.raw_inj {first second : Token} : first.raw = second.raw ↔ first = second := by
  rcases first with ⟨_, _⟩
  rcases second with ⟨_, _⟩
  rw [Token.mk.injEq]

namespace Bridge

variable {bridge : Bridge} {memory : Memory} {raw : UInt64} {method : InteropString}
  {buffers : ArgumentBuffers} {info : Option CreateInfo} {error : BridgeError}

/-! ## Tokens -/

/-- The word is zero, which no token is. -/
def zeroToken (raw : UInt64) (error : BridgeError) : Prop :=
  raw = 0 ∧ error = .handle (.invalid 0)

/-- No handle lives under the word: it was not issued, or it was released. -/
def deadToken (bridge : Bridge) (raw : UInt64) (error : BridgeError) : Prop :=
  (∃ token : Token, token.raw = raw ∧ bridge.store.handles.cell? token = none) ∧
    error = .handle (.invalid raw)

/-- A weak handle lives under the word, and its object was reclaimed. -/
def reclaimedObject (bridge : Bridge) (raw : UInt64) (error : BridgeError) : Prop :=
  (∃ (token : Token) (id : ObjectId), token.raw = raw ∧
    bridge.store.handles.cell? token = some ⟨.weak, id⟩ ∧ id ∉ bridge.store.heap.objects) ∧
      error = .handle (.collected raw)

theorem detects_tokenOfRaw (raw : UInt64) : Detects [zeroToken raw] (tokenOfRaw raw) := by
  refine detects_singleton fun error => ?_
  rw [tokenOfRaw, zeroToken, Token.ofRaw?]
  by_cases zero : raw = 0
  · simp [zero, eq_comm]
  · simp [zero]

private theorem resolve_eq_error_iff (coherent : bridge.store.Coherent) {token : Token} :
    bridge.resolve token = .error error ↔
      ∃ cause, bridge.store.resolveId token = .error cause ∧ error = .handle cause := by
  simp only [← coherent.resolve_eq_error_iff, resolve]
  cases bridge.store.resolve token <;> simp [Except.mapError, eq_comm]

/-- A token leads to no object if no handle lives under it, or if its object was
reclaimed. -/
theorem detects_resolve (coherent : bridge.store.Coherent) (token : Token) :
    Detects [bridge.deadToken token.raw, bridge.reclaimedObject token.raw]
      (bridge.resolve token) := by
  intro error
  rw [resolve_eq_error_iff coherent, firstOf_cons_iff, firstOf_singleton_iff]
  simp only [deadToken, reclaimedObject, Token.raw_inj, exists_eq_left]
  cases cellEq : bridge.store.handles.cell? token with
  | none => simp [Store.resolveId_of_cell?_eq_none cellEq]
  | some cell =>
      rcases cell with ⟨mode, id⟩
      cases mode with
      | owning => simp [(coherent.resolveId_owning cellEq).1, cellEq]
      | weak =>
          rw [coherent.resolveId_weak cellEq]
          by_cases member : id ∈ bridge.store.heap.objects <;> simp [member, cellEq]

/-! ## Calls -/

/-- What the input of a call reads as: a live token, the name of a method, and
arguments. -/
structure Reads (bridge : Bridge) (memory : Memory) (raw : UInt64) (method : InteropString)
    (buffers : ArgumentBuffers) (object : HeapObject) (name : String) (arguments : List Value) :
    Prop where
  resolves : ∃ token : Token, token.raw = raw ∧ bridge.resolve token = .ok object
  name_eq : method.text = .ok name
  arguments_eq : buffers.decode memory = .ok arguments

/-- A defect of the member that a call asks for, which shows once its input is read. -/
def memberDefect (bridge : Bridge) (memory : Memory) (raw : UInt64) (method : InteropString)
    (buffers : ArgumentBuffers)
    (defect : HeapObject → String → List Value → DispatchError → Prop)
    (error : BridgeError) : Prop :=
  ∃ object name arguments, bridge.Reads memory raw method buffers object name arguments ∧
    within .dispatch (defect object name arguments) error

/-- What may be wrong with a call before a body runs, in the order in which it is looked
for. -/
def callDefects (bridge : Bridge) (memory : Memory) (raw : UInt64) (method : InteropString)
    (buffers : ArgumentBuffers) : List (BridgeError → Prop) :=
  zeroToken raw :: (method.defects.map (within .interop) ++ buffers.defects.map (within .marshal) ++
    [bridge.deadToken raw, bridge.reclaimedObject raw,
      bridge.memberDefect memory raw method buffers HeapObject.lacksMethod,
      bridge.memberDefect memory raw method buffers HeapObject.refusesArgument])

/-- The method that answers on the object of a token, bound to its receiver and
arguments. -/
def bindCall (bridge : Bridge) (token : Token) (name : String) (arguments : List Value) :
    Except BridgeError Invocation := do
  let object ← bridge.resolve token
  (prepareInvocation object name arguments).mapError .dispatch

/-- The method that a native call runs, bound to its receiver and arguments. -/
def prepareCall (bridge : Bridge) (memory : Memory) (raw : UInt64) (method : InteropString)
    (buffers : ArgumentBuffers) : Except BridgeError Invocation := do
  let read ← readCall memory raw method buffers
  bridge.bindCall read.1 read.2.1 read.2.2

theorem readCall_eq_ok_iff {token : Token} {name : String} {arguments : List Value} :
    readCall memory raw method buffers = .ok (token, name, arguments) ↔
      token.raw = raw ∧ method.text = .ok name ∧ buffers.decode memory = .ok arguments := by
  have tokenIff : tokenOfRaw raw = .ok token ↔ token.raw = raw := by
    rcases token with ⟨word, nonzero⟩
    rw [tokenOfRaw, Token.ofRaw?]
    by_cases zero : raw = 0
    · simp only [zero, ne_eq, not_true, dite_false, reduceCtorEq, false_iff]
      exact nonzero
    · simp [zero, eq_comm]
  rw [← tokenIff, readCall]
  cases tokenOfRaw raw with
  | error cause => simp [bind, Except.bind]
  | ok found =>
      cases method.text with
      | error cause => simp [bind, Except.bind, Except.mapError]
      | ok text =>
          cases buffers.decode memory with
          | error cause => simp [bind, Except.bind, Except.mapError]
          | ok values => simp [bind, Except.bind, Except.mapError, pure, Except.pure]

theorem detects_readCall (memory : Memory) (raw : UInt64) (method : InteropString)
    (buffers : ArgumentBuffers) :
    Detects (zeroToken raw ::
        (method.defects.map (within .interop) ++ buffers.defects.map (within .marshal)))
      (readCall memory raw method buffers) := by
  have detectsArguments : ∀ (token : Token) (name : String),
      Detects (buffers.defects.map (within .marshal))
        (((buffers.decode memory).mapError BridgeError.marshal).map
          fun arguments => (token, name, arguments)) := fun token name =>
    ((buffers.detects_decode memory).mapError BridgeError.marshal).map _
  exact (detects_tokenOfRaw raw).bind fun token _ =>
    (method.detects_text.mapError BridgeError.interop).bind fun name _ =>
      detectsArguments token name

/-- Input reads in one way. -/
theorem Reads.memberDefect_eq {object : HeapObject} {name : String} {arguments : List Value}
    (reads : bridge.Reads memory raw method buffers object name arguments)
    (defect : HeapObject → String → List Value → DispatchError → Prop) :
    bridge.memberDefect memory raw method buffers defect =
      within .dispatch (defect object name arguments) := by
  funext error
  refine propext ⟨?_, fun applies => ⟨object, name, arguments, reads, applies⟩⟩
  rintro ⟨_, _, _, ⟨⟨other, otherRaw, otherResolves⟩, otherName, otherArguments⟩, applies⟩
  obtain ⟨⟨token, tokenRaw, resolves⟩, nameEq, argumentsEq⟩ := reads
  cases Token.raw_inj.mp (tokenRaw.trans otherRaw.symm)
  cases resolves.symm.trans otherResolves
  cases nameEq.symm.trans otherName
  cases argumentsEq.symm.trans otherArguments
  exact applies

theorem detects_prepareCall (coherent : bridge.store.Coherent) (memory : Memory) (raw : UInt64)
    (method : InteropString) (buffers : ArgumentBuffers) :
    Detects (bridge.callDefects memory raw method buffers)
      (bridge.prepareCall memory raw method buffers) := by
  refine (detects_readCall memory raw method buffers).bind fun read readEq => ?_
  obtain ⟨rfl, nameEq, argumentsEq⟩ := readCall_eq_ok_iff.mp readEq
  refine (detects_resolve coherent read.1).bind fun object resolved => ?_
  have reads : bridge.Reads memory read.1.raw method buffers object read.2.1 read.2.2 :=
    ⟨⟨read.1, rfl, resolved⟩, nameEq, argumentsEq⟩
  rw [reads.memberDefect_eq, reads.memberDefect_eq]
  exact (object.detects_prepareInvocation read.2.1 read.2.2).mapError BridgeError.dispatch

/-! ## Requests -/

/-- A defect of the constructors of the type that a request asks for, which shows once the
request is read and the type is known. -/
def typeDefect (bridge : Bridge) (memory : Memory) (info : Option CreateInfo)
    (defect : TypeDescriptor → List Value → DispatchError → Prop) (error : BridgeError) : Prop :=
  ∃ request type, CreateRequest.read memory info = .ok request ∧
    bridge.registry.findType? request.typeName = some type ∧
    within .dispatch (defect type request.arguments) error

/-- What may be wrong with a request before a body runs, in the order in which it is looked
for. -/
def requestDefects (bridge : Bridge) (memory : Memory) (info : Option CreateInfo) :
    List (BridgeError → Prop) :=
  CreateRequest.defects info ++
    [bridge.typeDefect memory info TypeDescriptor.lacksConstructor,
      bridge.typeDefect memory info TypeDescriptor.tiesConstructors]

/-- The request reads well and asks for a type that is unknown. -/
def unknownType (bridge : Bridge) (memory : Memory) (info : Option CreateInfo) : Prop :=
  ∃ request, CreateRequest.read memory info = .ok request ∧
    bridge.registry.findType? request.typeName = none

/-- A request with the constructor that answers it, bound to its arguments, if the type is
known. -/
def bindRequest (bridge : Bridge) (request : CreateRequest) :
    Except BridgeError (CreateRequest × Option Construction) :=
  match bridge.registry.findType? request.typeName with
  | none => .ok (request, none)
  | some type => ((prepareConstruction type request.arguments).mapError .dispatch).map
      fun work => (request, some work)

/-- What a native request reads as, with the constructor that it runs. -/
def prepareRequest (bridge : Bridge) (memory : Memory) (info : Option CreateInfo) :
    Except BridgeError (CreateRequest × Option Construction) := do
  let request ← CreateRequest.read memory info
  bridge.bindRequest request

theorem typeDefect_eq {request : CreateRequest} {type : TypeDescriptor}
    (readEq : CreateRequest.read memory info = .ok request)
    (found : bridge.registry.findType? request.typeName = some type)
    (defect : TypeDescriptor → List Value → DispatchError → Prop) :
    bridge.typeDefect memory info defect = within .dispatch (defect type request.arguments) := by
  funext error
  refine propext ⟨?_, fun applies => ⟨request, type, readEq, found, applies⟩⟩
  rintro ⟨other, otherType, otherReadEq, otherFound, applies⟩
  cases readEq.symm.trans otherReadEq
  cases found.symm.trans otherFound
  exact applies

theorem detects_prepareRequest (bridge : Bridge) (memory : Memory) (info : Option CreateInfo) :
    Detects (bridge.requestDefects memory info) (bridge.prepareRequest memory info) := by
  refine (CreateRequest.detects_read memory info).bind fun request readEq => ?_
  rw [bindRequest]
  cases found : bridge.registry.findType? request.typeName with
  | none =>
      have absent : ∀ (defect : TypeDescriptor → List Value → DispatchError → Prop) (error),
          ¬bridge.typeDefect memory info defect error := by
        rintro defect error ⟨other, type, otherReadEq, otherFound, _⟩
        cases readEq.symm.trans otherReadEq
        cases found.symm.trans otherFound
      exact .cons (absent _) (.cons (absent _) detects_ok)
  | some type =>
      rw [typeDefect_eq readEq found, typeDefect_eq readEq found]
      exact ((type.detects_prepareConstruction request.arguments).mapError
        BridgeError.dispatch).map _

/-- The type is unknown exactly if the request is bound to no constructor. -/
theorem unknownType_iff :
    bridge.unknownType memory info ↔
      ∃ request, bridge.prepareRequest memory info = .ok (request, none) := by
  rw [unknownType, prepareRequest]
  cases CreateRequest.read memory info with
  | error cause => simp [bind, Except.bind]
  | ok request =>
      simp only [Except.ok.injEq, exists_eq_left', bind, Except.bind, bindRequest]
      cases bridge.registry.findType? request.typeName with
      | none => simp
      | some type =>
          simp only
          cases prepareConstruction type request.arguments <;> simp [Except.mapError, Except.map]

end Bridge

end ObjectBridge
