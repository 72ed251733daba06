import ObjectBridge.Proofs.Source.Markers

/-!
# Functions that are not for export

A function that is not public and has no markers is never exported, so one more of them in a
block should make no difference to what else the block comes to.  It makes none if it runs
asynchronously, if it takes its receiver by value, or if all its parameters are plain names.
Otherwise the exporter refuses the block on its account, as it looks at the parameters of a
function before it asks whether the function is public.
-/

namespace ObjectBridge.Source

/-! ## Looking at a hidden function -/

namespace FunctionItem

variable {item : FunctionItem}

/-- Whether a function is not for export: it is not public and has no markers. -/
def IsHidden (item : FunctionItem) : Prop :=
  item.isPublic = false ∧ ∀ marker ∈ item.attributes, marker.isMarker = false

/-- Whether the exporter passes over a hidden function without looking at its parameters, or
finds nothing amiss in them. -/
def isPassedOver (item : FunctionItem) : Bool :=
  item.isAsync || item.receiver == some .byValue || item.parameters.all (·.isSimple)

theorem IsHidden.path_ne (hidden : item.IsHidden) {marker : Attribute}
    (found : marker ∈ item.attributes) :
    marker.path ≠ "constructor" ∧ marker.path ≠ "rename" := by
  rw [← Attribute.not_isMarker_iff, hidden.2 marker found]
  rfl

theorem IsHidden.isConstructor_eq (hidden : item.IsHidden) : item.isConstructor = false :=
  isConstructor_eq_false_iff.mpr fun _ found => (hidden.path_ne found).1

theorem IsHidden.rename_eq (hidden : item.IsHidden) : item.rename = .ok none := by
  have unnamed : firstNamed? "rename" item.attributes = none := by
    rw [firstNamed?, List.find?_eq_none]
    intro marker found named
    exact (hidden.path_ne found).2 (eq_of_beq named)
  rw [rename, unnamed]

theorem IsHidden.withoutMarkers_eq (hidden : item.IsHidden) : item.withoutMarkers = item := by
  have noConstructor : removeAll "constructor" item.attributes = item.attributes := by
    rw [removeAll, List.filter_eq_self]
    intro marker found
    exact bne_iff_ne.mpr (hidden.path_ne found).1
  have noRename : removeFirst "rename" item.attributes = item.attributes := by
    rw [removeFirst, List.eraseP_of_forall_not]
    intro marker found named
    exact (hidden.path_ne found).2 (eq_of_beq named)
  rw [withoutMarkers, noConstructor, noRename]

theorem parameterTypes_eq_ite (parameters : List Parameter) :
    parameterTypes parameters =
      if parameters.all (·.isSimple) then .ok (parameters.map (·.type))
      else .error .complexPattern := by
  induction parameters with
  | nil => rfl
  | cons parameter rest ih =>
      rw [parameterTypes, ih, List.all_cons, List.map_cons]
      cases parameter.isSimple with
      | false => rfl
      | true => cases rest.all (·.isSimple) <;> rfl

/-- A hidden function whose parameters are looked at. -/
private theorem IsHidden.member_of_taken (hidden : item.IsHidden)
    (sequential : item.isAsync = false) {receiver : Option MethodReceiver}
    (looked : item.inputs = (parameterTypes item.parameters).map (.taken receiver)) :
    item.member =
      if item.parameters.all (·.isSimple) then .ok none else .error .complexPattern := by
  rw [parameterTypes_eq_ite] at looked
  cases simple : item.parameters.all (·.isSimple) with
  | true =>
      rw [simple] at looked
      rw [member_eq_of_inputs hidden.rename_eq sequential looked, hidden.isConstructor_eq,
        hidden.1]
      rfl
  | false =>
      rw [simple] at looked
      rw [member, hidden.rename_eq, sequential, looked]
      rfl

theorem IsHidden.member_eq (hidden : item.IsHidden) :
    item.member = if item.isPassedOver then .ok none else .error .complexPattern := by
  rw [isPassedOver]
  cases asynchronous : item.isAsync with
  | true =>
      rw [member, hidden.rename_eq, asynchronous, hidden.isConstructor_eq]
      rfl
  | false =>
      cases receiverEq : item.receiver with
      | none =>
          exact hidden.member_of_taken asynchronous (by rw [inputs, receiverEq])
      | some form =>
          cases form with
          | shared =>
              exact hidden.member_of_taken asynchronous (by rw [inputs, receiverEq])
          | mutable =>
              exact hidden.member_of_taken asynchronous (by rw [inputs, receiverEq])
          | byValue =>
              have looked : item.inputs = .ok .skipped := by
                rw [inputs, receiverEq, hidden.isConstructor_eq, hidden.1]
                rfl
              rw [member, hidden.rename_eq, asynchronous, looked]
              rfl

end FunctionItem

/-! ## One more function -/

theorem members_append (first second : List FunctionItem) :
    members (first ++ second) = (members first).bind fun found =>
      (members second).map (found ++ ·) := by
  induction first with
  | nil =>
      rw [List.nil_append]
      cases members second <;> rfl
  | cons item rest ih =>
      rw [List.cons_append, members, ih, members]
      cases item.member with
      | error cause => rfl
      | ok member =>
          cases members rest with
          | error cause => rfl
          | ok others =>
              cases members second with
              | error cause => rfl
              | ok more => simp [bind, Except.bind, Except.map, pure, Except.pure]

/-- A hidden function adds no member. -/
theorem members_insert {item : FunctionItem} (hidden : item.IsHidden)
    (before after : List FunctionItem) :
    members (before ++ item :: after) =
      if item.isPassedOver then members (before ++ after)
      else (members before).bind fun _ => .error .complexPattern := by
  rw [members_append, members, hidden.member_eq]
  cases item.isPassedOver with
  | true =>
      rw [members_append]
      cases members after <;> rfl
  | false => rfl

namespace Block

/-- What a block says before its functions: the name of the exported type, unless the block
cannot be exported. -/
def heading (properties : List Token) (block : Block) : Except SourceError String := do
  let name ← exportedName properties
  if block.isTrait then throw .traitBlock
  if block.isGeneric then throw .genericBlock
  block.typeName name

/-- The block without the items from a place on. -/
def cut (block : Block) (place : Nat) : Block :=
  { block with items := block.items.take place }

/-- The block with one more function in front of the items from a place on. -/
def insert (block : Block) (place : Nat) (item : FunctionItem) : Block :=
  { block with items := block.items.take place ++ .function item :: block.items.drop place }

end Block

/-- The expansion with one more function in front of those from a place on. -/
def Expansion.insert (expansion : Expansion) (place : Nat) (item : FunctionItem) : Expansion :=
  { expansion with
    functions := expansion.functions.take place ++ item :: expansion.functions.drop place }

theorem expand_eq (properties : List Token) (block : Block) :
    expand properties block = (block.heading properties).bind fun typeName =>
      (members block.functions).map fun found =>
        ⟨typeName, block.selfType, block.functions.map FunctionItem.withoutMarkers,
          found.map Member.registration⟩ := by
  rw [expand, Block.heading]
  cases exportedName properties with
  | error cause => rfl
  | ok name =>
      cases block.isTrait with
      | true => rfl
      | false =>
          cases block.isGeneric with
          | true => rfl
          | false =>
              change (block.typeName name >>= fun typeName => _) =
                Except.bind (block.typeName name) _
              cases block.typeName name with
              | error cause => rfl
              | ok typeName => cases members block.functions <;> rfl

section Insertion

variable (block : Block) (place : Nat) (item : FunctionItem)

theorem Block.functions_insert :
    (block.insert place item).functions =
      (block.cut place).functions ++
        item :: ({ block with items := block.items.drop place } : Block).functions := by
  simp [Block.functions, Block.insert, Block.cut]

theorem Block.functions_eq_append :
    block.functions = (block.cut place).functions ++
      ({ block with items := block.items.drop place } : Block).functions := by
  rw [Block.functions, Block.functions, Block.functions, Block.cut, ← List.filterMap_append,
    List.take_append_drop]

end Insertion

/-- A hidden function stands among the functions of the expansion as it is. -/
theorem FunctionItem.IsHidden.map_withoutMarkers {item : FunctionItem} (hidden : item.IsHidden)
    (before after : List FunctionItem) :
    (before ++ item :: after).map withoutMarkers =
      ((before ++ after).map withoutMarkers).take before.length ++
        item :: ((before ++ after).map withoutMarkers).drop before.length := by
  have lengthEq : (before.map withoutMarkers).length = before.length := List.length_map _
  rw [List.map_append, List.map_append, List.map_cons, hidden.withoutMarkers_eq,
    List.take_left' lengthEq, List.drop_left' lengthEq]

/-- One more hidden function in a block leaves everything else as it is if it is passed over:
the block is refused for the same cause, or is expanded to the same registrations, and to the
same functions beside the new one, which is not changed.  Otherwise the block is refused: for
a cause that lies before the function if there is one, and else for the parameters of the
function. -/
theorem hidden_functions_stay_apart (properties : List Token) (block : Block) (place : Nat)
    (item : FunctionItem) (hidden : item.IsHidden) :
    expand properties (block.insert place item) =
      if item.isPassedOver then
        (expand properties block).map (·.insert (block.cut place).functions.length item)
      else (expand properties (block.cut place)).bind fun _ => .error .complexPattern := by
  -- The heading is made before any function is looked at, so it is the same for all three blocks.
  have headingEq : (block.insert place item).heading properties = block.heading properties := rfl
  have cutEq : (block.cut place).heading properties = block.heading properties := rfl
  rw [expand_eq, expand_eq, expand_eq, headingEq, cutEq, Block.functions_insert,
    members_insert hidden, block.functions_eq_append place]
  cases block.heading properties with
  | error cause => cases item.isPassedOver <;> rfl
  | ok typeName =>
      cases item.isPassedOver with
      | true =>
          rw [if_pos rfl, if_pos rfl, hidden.map_withoutMarkers]
          cases members _ <;> rfl
      | false => cases members (block.cut place).functions <;> rfl

/-- A block with one method. -/
def gaugeBlock : Block where
  selfType := "Gauge"
  selfName := some "Gauge"
  isTrait := false
  isGeneric := false
  items :=
    [.function ⟨"get", true, false, some .shared, [], .type (some "i64"), []⟩]

/-- A function that takes its receiver by value and a pair apart. -/
def consumer : FunctionItem :=
  ⟨"consume", false, false, some .byValue, [⟨false, "(i32,i32)"⟩], .nothing, [⟨"inline", .absent⟩]⟩

/-- A function that takes a pair apart. -/
def pairHelper : FunctionItem :=
  ⟨"helper", false, false, some .shared, [⟨false, "(i32,i32)"⟩], .nothing, []⟩

theorem isHidden_consumer : consumer.IsHidden := by
  refine ⟨rfl, ?_⟩
  decide

theorem isHidden_pairHelper : pairHelper.IsHidden := by
  refine ⟨rfl, ?_⟩
  decide

theorem hidden_functions_stay_apart_gauge :
    consumer.IsHidden ∧
      (∃ expansion, expand [] gaugeBlock = .ok expansion ∧
        expansion.registrations.map (·.kind) = [.method "Get" .shared] ∧
        expand [] (gaugeBlock.insert 1 consumer) = .ok (expansion.insert 1 consumer)) ∧
      pairHelper.IsHidden ∧
      expand [] (gaugeBlock.insert 1 pairHelper) = .error .complexPattern := by
  have apart := hidden_functions_stay_apart [] gaugeBlock 1 consumer isHidden_consumer
  have refused := hidden_functions_stay_apart [] gaugeBlock 1 pairHelper isHidden_pairHelper
  exact ⟨isHidden_consumer, ⟨_, rfl, by decide +kernel, apart⟩, isHidden_pairHelper, refused⟩

/-- The block with a function that is not public and takes a pair apart. -/
def helpedGaugeText : String :=
  "impl Gauge \x7b pub fn get(&self) -> i64 \x7b \x7d
  fn helper(&self, (a, b): (i32, i32)) \x7b \x7d \x7d"

/-- Not every hidden function stays apart: one whose parameter is no plain name is the end of
the whole expansion. -/
theorem hidden_pattern_refused :
    Block.read? helpedGaugeText = some (gaugeBlock.insert 1 pairHelper) ∧
      ¬∀ (properties : List Token) (block : Block) (place : Nat) (item : FunctionItem),
        item.IsHidden →
        expand properties (block.insert place item) =
          (expand properties block).map (·.insert (block.cut place).functions.length item) := by
  refine ⟨by decide +kernel, ?_⟩
  intro apart
  have refused : expand [] (gaugeBlock.insert 1 pairHelper) = .error .complexPattern := rfl
  obtain ⟨expansion, expands⟩ : ∃ expansion, expand [] gaugeBlock = .ok expansion := ⟨_, rfl⟩
  have same := apart [] gaugeBlock 1 pairHelper isHidden_pairHelper
  rw [refused, expands] at same
  contradiction

end ObjectBridge.Source
