import Mathlib.Data.List.Forall2
import ObjectBridge.Proofs.Source.Reading
import ObjectBridge.Source.Expansion

/-!
# What a block exports

Which functions of a block are exported, and as what, is said here without regard to the
order in which the exporter looks at them, and without its refusals.  An exporter that does
not refuse registers those functions in the order of their declaration, and no others.
-/

namespace ObjectBridge.Source

/-! ## Exported functions -/

/-- The form of receiver that a method takes. -/
def MethodReceiver.form : MethodReceiver → ReceiverForm
  | shared => .shared
  | mutable => .mutable

namespace FunctionItem

/-- Whether a function is to be exported: it does not run asynchronously, and it is marked as
a constructor or is public and takes its receiver by reference. -/
def isExported (item : FunctionItem) : Bool :=
  !item.isAsync && (item.isConstructor ||
    (item.isPublic && (item.receiver == some .shared || item.receiver == some .mutable)))

/-- The name that a method is to be exported under: the literal of its first `rename`, or the
Pascal-case form of its own name if it has none. -/
inductive NamedAs (item : FunctionItem) : String → Prop
  | renamed {before after : List Attribute} {name written : String} :
      item.attributes = before ++ ⟨"rename", .list [⟨.text name, written⟩]⟩ :: after →
      (∀ marker ∈ before, marker.path ≠ "rename") → NamedAs item name
  | plain : (∀ marker ∈ item.attributes, marker.path ≠ "rename") →
      NamedAs item (pascalCase item.name)

/-- What a function is to be exported as. -/
inductive ExportedAs (item : FunctionItem) : MemberKind → Prop
  | constructor {fallible : Bool} {marker : Attribute} :
      item.isAsync = false → marker ∈ item.attributes → marker.path = "constructor" →
      (fallible = true ↔ item.returns = .type (some "Result")) →
      ExportedAs item (.constructor fallible)
  | method {name : String} {receiver : MethodReceiver} :
      item.isAsync = false → (∀ marker ∈ item.attributes, marker.path ≠ "constructor") →
      item.isPublic = true → item.receiver = some receiver.form → item.NamedAs name →
      ExportedAs item (.method name receiver)

/-! ## Looking at one function -/

variable {item : FunctionItem}

theorem isConstructor_eq_false_iff :
    item.isConstructor = false ↔ ∀ marker ∈ item.attributes, marker.path ≠ "constructor" := by
  simp [isConstructor]

theorem exists_of_isConstructor (marked : item.isConstructor = true) :
    ∃ marker ∈ item.attributes, marker.path = "constructor" := by
  simpa [isConstructor] using marked

theorem parameterTypes_eq {parameters : List Parameter} {types : List String}
    (simple : parameterTypes parameters = .ok types) : types = parameters.map (·.type) := by
  induction parameters generalizing types with
  | nil =>
      cases simple
      rfl
  | cons parameter rest ih =>
      rw [parameterTypes] at simple
      split at simple
      · cases restEq : parameterTypes rest with
        | error cause =>
            rw [restEq] at simple
            contradiction
        | ok others =>
            rw [restEq] at simple
            cases simple
            rw [ih restEq, List.map_cons]
      · contradiction

/-- What the inputs of a function lead to. -/
inductive Looked (item : FunctionItem) : Inputs → Prop
  | skipped : item.isConstructor = false → item.isPublic = false → Looked item .skipped
  | taken {receiver : Option MethodReceiver} :
      item.receiver = receiver.map MethodReceiver.form →
      Looked item (.taken receiver (item.parameters.map (·.type)))

private theorem looked_of_taken {found : Inputs} (receiver : Option MethodReceiver)
    (receiverEq : item.receiver = receiver.map MethodReceiver.form)
    (looked : (parameterTypes item.parameters).map (Inputs.taken receiver) = .ok found) :
    item.Looked found := by
  cases simple : parameterTypes item.parameters with
  | error cause =>
      rw [simple] at looked
      contradiction
  | ok types =>
      rw [simple] at looked
      cases looked
      rw [parameterTypes_eq simple]
      exact .taken receiverEq

theorem looked_of_inputs {found : Inputs} (looked : item.inputs = .ok found) :
    item.Looked found := by
  rw [inputs] at looked
  cases receiverEq : item.receiver with
  | none =>
      rw [receiverEq] at looked
      exact looked_of_taken none receiverEq looked
  | some form =>
      rw [receiverEq] at looked
      cases form with
      | shared => exact looked_of_taken (some .shared) receiverEq looked
      | mutable => exact looked_of_taken (some .mutable) receiverEq looked
      | byValue =>
          simp only at looked
          split at looked
          · contradiction
          · rename_i unmarked
            split at looked
            · contradiction
            · rename_i hidden
              cases looked
              exact .skipped (Bool.eq_false_iff.mpr unmarked) (Bool.eq_false_iff.mpr hidden)

theorem onlyText_eq_ok {arguments : AttributeArguments} {text : String}
    (read : arguments.onlyText = .ok text) :
    ∃ written, arguments = .list [⟨.text text, written⟩] := by
  cases arguments with
  | absent => contradiction
  | value => contradiction
  | list inside =>
      rcases inside with _ | ⟨⟨kind, written⟩, rest⟩
      · contradiction
      · cases kind with
        | text value =>
            simp only [AttributeArguments.onlyText, expectText, bind, Except.bind] at read
            split at read
            · rename_i ends
              cases read
              rw [List.isEmpty_iff.mp ends]
              exact ⟨written, rfl⟩
            · contradiction
        | _ => contradiction

/-- A function is renamed by its first marker for that, or has none. -/
theorem namedAs_of_rename {name : Option String} (renamed : item.rename = .ok name) :
    item.NamedAs (name.getD (pascalCase item.name)) := by
  rw [rename, firstNamed?] at renamed
  cases found : item.attributes.find? fun marker => marker.path == "rename" with
  | none =>
      rw [found] at renamed
      cases renamed
      exact .plain (by simpa using found)
  | some marker =>
      obtain ⟨pathEq, before, after, attributesEq, others⟩ :=
        List.find?_eq_some_iff_append.mp found
      simp only [found, bind, Except.bind] at renamed
      cases read : marker.arguments.onlyText with
      | error cause =>
          rw [read] at renamed
          contradiction
      | ok text =>
          obtain ⟨written, argumentsEq⟩ := onlyText_eq_ok read
          rcases marker with ⟨path, arguments⟩
          obtain rfl : path = "rename" := by simpa using pathEq
          cases argumentsEq
          simp only [read] at renamed
          split at renamed
          · contradiction
          · cases renamed
            exact .renamed attributesEq (by simpa using others)

/-- The member that a function is to be exported as. -/
structure Exports (item : FunctionItem) (member : Member) : Prop where
  kind : item.ExportedAs member.kind
  function_eq : member.function = item.name
  types_eq : member.types = item.parameters.map (·.type)

theorem constructorMember_eq_ok {renamed : Option String} {receiver : Option MethodReceiver}
    {types : List String} {member : Member}
    (made : item.constructorMember renamed receiver types = .ok member) :
    member = ⟨.constructor item.returns.isResult, item.name, types⟩ := by
  simp only [constructorMember, bind, Except.bind] at made
  split at made
  · contradiction
  · split at made
    · contradiction
    · split at made
      · contradiction
      · cases made
        rfl

theorem exports_constructor {member : Member} {name : Option String}
    {receiver : Option MethodReceiver} (sequential : item.isAsync = false)
    (marked : item.isConstructor = true)
    (made : item.constructorMember name receiver (item.parameters.map (·.type)) = .ok member) :
    item.Exports member := by
  obtain ⟨marker, found, pathEq⟩ := exists_of_isConstructor marked
  rw [constructorMember_eq_ok made]
  refine ⟨.constructor sequential found pathEq ?_, rfl, rfl⟩
  rw [ReturnForm.isResult, beq_iff_eq]

theorem exports_method {name : Option String} {receiver : MethodReceiver}
    (sequential : item.isAsync = false) (unmarked : item.isConstructor = false)
    (isPublic : item.isPublic = true) (receiverEq : item.receiver = some receiver.form)
    (renamed : item.rename = .ok name) :
    item.Exports ⟨.method (name.getD (pascalCase item.name)) receiver, item.name,
      item.parameters.map (·.type)⟩ :=
  ⟨.method sequential (isConstructor_eq_false_iff.mp unmarked) isPublic receiverEq
    (namedAs_of_rename renamed), rfl, rfl⟩

/-- What becomes of a function once its name and its parameters are known. -/
theorem member_eq_of_inputs {name : Option String} {receiver : Option MethodReceiver}
    {types : List String} (renamed : item.rename = .ok name) (sequential : item.isAsync = false)
    (looked : item.inputs = .ok (.taken receiver types)) :
    item.member =
      if item.isConstructor then (item.constructorMember name receiver types).map some
      else .ok (if item.isPublic then
        receiver.map fun receiver =>
          ⟨.method (name.getD (pascalCase item.name)) receiver, item.name, types⟩
        else none) := by
  simp only [member, renamed, sequential, looked, bind, Except.bind, Bool.false_eq_true, if_false]
  split
  · cases item.constructorMember name receiver types <;> rfl
  · cases receiver with
    | none => cases item.isPublic <;> rfl
    | some form => cases item.isPublic <;> rfl

private theorem exports_of_taken {name : Option String} {receiver : Option MethodReceiver}
    {found : Option Member} (renamed : item.rename = .ok name) (sequential : item.isAsync = false)
    (receiverEq : item.receiver = receiver.map MethodReceiver.form)
    (looked : item.inputs = .ok (.taken receiver (item.parameters.map (·.type))))
    (collected : item.member = .ok found) :
    found.isSome = item.isExported ∧ ∀ member, found = some member → item.Exports member := by
  rw [member_eq_of_inputs renamed sequential looked] at collected
  cases marked : item.isConstructor with
  | true =>
      rw [marked, if_pos rfl] at collected
      cases madeEq : item.constructorMember name receiver (item.parameters.map (·.type)) with
      | error cause =>
          rw [madeEq] at collected
          contradiction
      | ok made =>
          rw [madeEq] at collected
          cases collected
          refine ⟨by simp [isExported, sequential, marked], ?_⟩
          rintro _ ⟨⟩
          exact exports_constructor sequential marked madeEq
  | false =>
      rw [marked, if_neg Bool.false_ne_true, Except.ok.injEq] at collected
      rw [← collected]
      cases visible : item.isPublic with
      | false => simp [isExported, marked, visible]
      | true =>
          cases receiver with
          | none => simp [isExported, marked, receiverEq]
          | some form =>
              refine ⟨?_, ?_⟩
              · cases form <;>
                  simp [isExported, sequential, visible, receiverEq, MethodReceiver.form]
              · rintro _ ⟨⟩
                exact exports_method sequential marked visible receiverEq renamed

/-- Exactly the functions that are to be exported are, and as they are to be. -/
theorem exports_of_member {found : Option Member} (collected : item.member = .ok found) :
    found.isSome = item.isExported ∧ ∀ member, found = some member → item.Exports member := by
  have unfolded := collected
  simp only [member, bind, Except.bind] at unfolded
  cases renamed : item.rename with
  | error cause =>
      rw [renamed] at unfolded
      contradiction
  | ok name =>
      cases asynchronous : item.isAsync with
      | true =>
          simp only [renamed, asynchronous, if_true] at unfolded
          split at unfolded
          · contradiction
          · cases unfolded
            simp [isExported, asynchronous]
      | false =>
          simp only [renamed, asynchronous, Bool.false_eq_true, if_false] at unfolded
          cases looked : item.inputs with
          | error cause =>
              rw [looked] at unfolded
              contradiction
          | ok inputs =>
              rw [looked] at unfolded
              cases looked_of_inputs looked with
              | skipped unmarked hidden =>
                  cases unfolded
                  simp [isExported, unmarked, hidden]
              | taken receiverEq =>
                  exact exports_of_taken renamed asynchronous receiverEq looked collected

end FunctionItem

/-! ## Looking at all functions -/

/-- The members are those of the functions that are to be exported, in order. -/
theorem exports_of_members {items : List FunctionItem} {found : List Member}
    (collected : members items = .ok found) :
    List.Forall₂ FunctionItem.Exports (items.filter FunctionItem.isExported) found := by
  induction items generalizing found with
  | nil =>
      cases collected
      exact .nil
  | cons item rest ih =>
      simp only [members, bind, Except.bind] at collected
      cases firstEq : item.member with
      | error cause =>
          rw [firstEq] at collected
          contradiction
      | ok first =>
          cases othersEq : members rest with
          | error cause =>
              simp only [firstEq, othersEq] at collected
              contradiction
          | ok others =>
              simp only [firstEq, othersEq] at collected
              cases collected
              obtain ⟨exportedEq, exports⟩ := FunctionItem.exports_of_member firstEq
              cases first with
              | none =>
                  rw [List.filter_cons_of_neg (Bool.eq_false_iff.mp exportedEq.symm)]
                  exact ih othersEq
              | some member =>
                  rw [List.filter_cons_of_pos exportedEq.symm]
                  exact .cons (exports member rfl) (ih othersEq)

/-- An expanded block has all its functions, without the markers that were read, and a
registration for each member. -/
theorem expansion_of_expand {properties : List Token} {block : Block} {expansion : Expansion}
    (expands : expand properties block = .ok expansion) :
    ∃ typeName found, members block.functions = .ok found ∧
      expansion = ⟨typeName, block.selfType, block.functions.map FunctionItem.withoutMarkers,
        found.map Member.registration⟩ := by
  simp only [expand, bind, Except.bind] at expands
  split at expands
  · contradiction
  · split at expands
    · contradiction
    · split at expands
      · contradiction
      · split at expands
        · contradiction
        · rename_i typeName _
          split at expands
          · contradiction
          · rename_i found collected
            cases expands
            exact ⟨typeName, found, collected, rfl⟩

theorem expand_eq_ok {properties : List Token} {block : Block} {expansion : Expansion}
    (expands : expand properties block = .ok expansion) :
    ∃ found, members block.functions = .ok found ∧
      expansion.registrations = found.map Member.registration := by
  obtain ⟨_, found, collected, rfl⟩ := expansion_of_expand expands
  exact ⟨found, collected, rfl⟩

/-- A registration is that of a function: it is of the kind that the function is to be
exported as, declares its typed parameters in order, and calls it. -/
structure FunctionItem.RegisteredAs (item : FunctionItem) (registration : Registration) :
    Prop where
  kind : item.ExportedAs registration.kind
  declared_eq : registration.declared = item.parameters.map (·.type)
  callee_eq : registration.callee = "Self::" ++ item.name

theorem FunctionItem.Exports.registeredAs {item : FunctionItem} {member : Member}
    (exports : item.Exports member) : item.RegisteredAs member.registration where
  kind := exports.kind
  declared_eq := exports.types_eq
  callee_eq := congrArg ("Self::" ++ ·) exports.function_eq

/-- An expanded block registers the functions that are to be exported one for one, in the
order of their declaration, as what they are to be, and nothing else.  What the exporter
knows of visibility and receivers is what is written: an unrestricted `pub`, and `&` with or
without a lifetime and with or without `mut`. -/
theorem exports_as_declared :
    (∀ (properties : List Token) (block : Block) (expansion : Expansion),
      expand properties block = .ok expansion →
      List.Forall₂ FunctionItem.RegisteredAs
        (block.functions.filter FunctionItem.isExported) expansion.registrations) ∧
    (∀ (nested : Nested) (tokens rest : List Token) (item : FunctionItem),
      nested.blockItem tokens = some (.function item, rest) →
      ∃ attributes declared,
        Reader.markers nested.bound false tokens = some (attributes, declared) ∧
        item.isPublic = isPlainlyPublic declared) ∧
    ∀ (nested : Nested) (tokens rest : List Token) (parameter : ParameterText),
      nested.receiver tokens = some (parameter, rest) →
      parameter.form = .receiver (writtenReceiver tokens) := by
  refine ⟨?_, ?_, ?_⟩
  · intro properties block expansion expands
    obtain ⟨found, collected, registrationsEq⟩ := expand_eq_ok expands
    rw [registrationsEq, List.forall₂_map_right_iff]
    exact (exports_of_members collected).imp fun _ _ exports => exports.registeredAs
  · intro nested tokens rest item read
    exact isPublic_of_blockItem read
  · intro nested tokens rest parameter read
    exact receiver_form read

/-- A block with a constructor that is not public, two methods, and a function that is not
visible everywhere. -/
def tallyText : String :=
  "impl T \x7b #[constructor] fn of(n: u8) -> T \x7b T \x7d
  pub fn add(&'a mut self, by: i32) \x7b \x7d #[rename(\"Get\")] pub fn at(&self) \x7b \x7d
  pub(crate) fn on(&self) \x7b \x7d \x7d"

/-- The functions of the block. -/
def tallyBlock : Block where
  selfType := "T"
  selfName := some "T"
  isTrait := false
  isGeneric := false
  items :=
    [ .function ⟨"of", false, false, none, [⟨true, "u8"⟩], .type (some "T"),
        [⟨"constructor", .absent⟩]⟩,
      .function ⟨"add", true, false, some .mutable, [⟨true, "i32"⟩], .nothing, []⟩,
      .function ⟨"at", true, false, some .shared, [], .nothing,
        [⟨"rename", .list [⟨.text "Get", "\"Get\""⟩]⟩]⟩,
      .function ⟨"on", false, false, some .shared, [], .nothing, []⟩ ]

/-- The tokens of `&'a mut self`. -/
def mutableReceiver : List Token :=
  [.alone "&", ⟨.lifetime, "'a"⟩, ⟨.word, "mut"⟩, ⟨.word, "self"⟩]

/-- The tokens of `pub fn at() {}`. -/
def publicFunction : List Token :=
  [⟨.word, "pub"⟩, ⟨.word, "fn"⟩, ⟨.word, "at"⟩, ⟨.opening, "("⟩, ⟨.closing, ")"⟩,
    ⟨.opening, "\x7b"⟩, ⟨.closing, "\x7d"⟩]

theorem exports_as_declared_tally :
    Block.read? tallyText = some tallyBlock ∧
    (∃ expansion, expand [] tallyBlock = .ok expansion ∧
      List.Forall₂ FunctionItem.RegisteredAs
        (tallyBlock.functions.filter FunctionItem.isExported) expansion.registrations ∧
      expansion.registrations.map (·.kind) =
        [.constructor false, .method "Add" .mutable, .method "Get" .shared]) ∧
    (∃ attributes declared,
      Reader.markers 1 false publicFunction = some (attributes, declared) ∧
      true = isPlainlyPublic declared) ∧
    ∃ form, form = ParameterForm.receiver (writtenReceiver mutableReceiver) ∧
      form = .receiver .mutable := by
  have visible := exports_as_declared.2.1 (.ofDepth 1) publicFunction []
    ⟨"at", true, false, none, [], .nothing, []⟩ (by decide +kernel)
  have borrowed := exports_as_declared.2.2 .refused mutableReceiver []
    ⟨mutableReceiver, .receiver .mutable⟩ (by decide +kernel)
  refine ⟨by decide +kernel, ⟨_, rfl, exports_as_declared.1 [] tallyBlock _ rfl, ?_⟩, visible,
    _, borrowed, rfl⟩
  decide +kernel

end ObjectBridge.Source
