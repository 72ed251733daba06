import ObjectBridge.Proofs.Source.Exports

/-!
# Markers of an expanded block

A function keeps its attributes through an expansion, apart from the markers.  All constructor
markers go, but of the markers that rename only the one that was read, so a function that is
renamed twice still has a marker.
-/

namespace ObjectBridge.Source

/-! ## Removal -/

section Removal

variable {path : String} {attributes : List Attribute} {keep : Attribute → Bool}

theorem filter_removeAll_self :
    (removeAll path attributes).filter (·.path == path) = [] := by
  simp [removeAll]

/-- Attributes with another path stay where some are removed. -/
theorem filter_removeAll (others : ∀ marker, keep marker = true → marker.path ≠ path) :
    (removeAll path attributes).filter keep = attributes.filter keep := by
  rw [removeAll, List.filter_filter]
  apply List.filter_congr
  intro marker _
  cases kept : keep marker with
  | false => rfl
  | true => simpa using others marker kept

theorem filter_removeFirst_self :
    (removeFirst path attributes).filter (·.path == path) =
      (attributes.filter (·.path == path)).tail := by
  rw [removeFirst]
  induction attributes with
  | nil => rfl
  | cons first rest ih =>
      cases named : first.path == path with
      | true => simp [named]
      | false => simpa [List.eraseP_cons, named] using ih

theorem filter_removeFirst (others : ∀ marker, keep marker = true → marker.path ≠ path) :
    (removeFirst path attributes).filter keep = attributes.filter keep := by
  rw [removeFirst]
  induction attributes with
  | nil => rfl
  | cons first rest ih =>
      cases named : first.path == path with
      | true =>
          have dropped : keep first = false :=
            Bool.eq_false_iff.mpr fun kept => others first kept (eq_of_beq named)
          simp [named, dropped]
      | false => simp [List.filter_cons, named, ih]

end Removal

/-! ## What is left of a function -/

/-- Whether an attribute is a marker. -/
def Attribute.isMarker (marker : Attribute) : Bool :=
  marker.path == "constructor" || marker.path == "rename"

theorem Attribute.not_isMarker_iff {marker : Attribute} :
    (!marker.isMarker) = true ↔ marker.path ≠ "constructor" ∧ marker.path ≠ "rename" := by
  simp [isMarker]

namespace FunctionItem

/-- The markers that rename a function. -/
def renamings (item : FunctionItem) : List Attribute :=
  item.attributes.filter (·.path == "rename")

/-- What becomes of a function in the expanded block: its attributes lose the constructor
markers and the first of those that rename, and nothing else changes. -/
structure StrippedTo (item emitted : FunctionItem) : Prop where
  rest_eq : emitted = { item with attributes := emitted.attributes }
  sublist : emitted.attributes.Sublist item.attributes
  others_eq : emitted.attributes.filter (!·.isMarker) = item.attributes.filter (!·.isMarker)
  constructors_eq : emitted.attributes.filter (·.path == "constructor") = []
  renamings_eq : emitted.renamings = item.renamings.tail

theorem strippedTo_withoutMarkers (item : FunctionItem) :
    item.StrippedTo item.withoutMarkers where
  rest_eq := rfl
  sublist := List.eraseP_sublist.trans List.filter_sublist
  others_eq := by
    rw [withoutMarkers, filter_removeFirst, filter_removeAll]
    · exact fun marker other => (Attribute.not_isMarker_iff.mp other).1
    · exact fun marker other => (Attribute.not_isMarker_iff.mp other).2
  constructors_eq := by
    rw [withoutMarkers, filter_removeFirst, filter_removeAll_self]
    intro marker isConstructor
    rw [eq_of_beq isConstructor]
    decide
  renamings_eq := by
    rw [renamings, withoutMarkers, filter_removeFirst_self, filter_removeAll, renamings]
    intro marker renames
    rw [eq_of_beq renames]
    decide

/-- The only markers left are those that rename, the first one aside. -/
theorem StrippedTo.markers_eq {item emitted : FunctionItem} (stripped : item.StrippedTo emitted) :
    emitted.attributes.filter Attribute.isMarker = item.renamings.tail := by
  rw [← stripped.renamings_eq, renamings]
  apply List.filter_congr
  intro marker found
  have other : (marker.path == "constructor") = false :=
    Bool.eq_false_iff.mpr (List.filter_eq_nil_iff.mp stripped.constructors_eq marker found)
  rw [Attribute.isMarker, other, Bool.false_or]

/-- No marker is left of a function that is renamed once at most. -/
theorem StrippedTo.unmarked_iff {item emitted : FunctionItem}
    (stripped : item.StrippedTo emitted) :
    (∀ marker ∈ emitted.attributes, marker.isMarker = false) ↔ item.renamings.length ≤ 1 := by
  calc
    _ ↔ emitted.attributes.filter Attribute.isMarker = [] := by simp [List.filter_eq_nil_iff]
    _ ↔ item.renamings.tail = [] := by rw [stripped.markers_eq]
    _ ↔ item.renamings.length ≤ 1 := by
        rw [← List.length_eq_zero_iff, List.length_tail, Nat.sub_eq_zero_iff_le]

end FunctionItem

/-! ## Expanded blocks -/

/-- An expanded block has the functions of the block in their order, exported or not.  Each
has all its attributes in their order, apart from the constructor markers and the first marker
that renames, so it has no marker just if it had at most one that renames. -/
theorem expansion_strips_markers (properties : List Token) (block : Block)
    (expansion : Expansion) (expands : expand properties block = .ok expansion) :
    List.Forall₂ (fun item emitted => item.StrippedTo emitted ∧
        ((∀ marker ∈ emitted.attributes, marker.isMarker = false) ↔
          item.renamings.length ≤ 1))
      block.functions expansion.functions := by
  obtain ⟨_, _, _, rfl⟩ := expansion_of_expand expands
  rw [List.forall₂_map_right_iff, List.forall₂_same]
  intro item _
  have stripped := item.strippedTo_withoutMarkers
  exact ⟨stripped, stripped.unmarked_iff⟩

/-- A block with a constructor that is marked twice, a method, and a function that is not
exported, each with attributes of other sorts. -/
def annotatedBlock : Block where
  selfType := "T"
  selfName := some "T"
  isTrait := false
  isGeneric := false
  items :=
    [ .function ⟨"of", false, false, none, [], .type (some "Self"),
        [⟨"constructor", .absent⟩, ⟨"inline", .absent⟩, ⟨"constructor", .absent⟩]⟩,
      .function ⟨"at", true, false, some .shared, [], .nothing,
        [⟨"inline", .absent⟩, ⟨"rename", .list [⟨.text "Get", "\"Get\""⟩]⟩,
          ⟨"cold", .absent⟩]⟩,
      .function ⟨"on", false, true, some .shared, [], .nothing,
        [⟨"rename", .list [⟨.text "On", "\"On\""⟩]⟩, ⟨"cold", .absent⟩]⟩ ]

theorem expansion_strips_markers_annotated :
    ∃ expansion, expand [] annotatedBlock = .ok expansion ∧
      expansion.functions.map (·.attributes.map (·.path)) =
        [["inline"], ["inline", "cold"], ["cold"]] ∧
      List.Forall₂ (fun item emitted => item.StrippedTo emitted ∧
          ((∀ marker ∈ emitted.attributes, marker.isMarker = false) ↔
            item.renamings.length ≤ 1))
        annotatedBlock.functions expansion.functions :=
  ⟨_, rfl, by decide +kernel, expansion_strips_markers [] annotatedBlock _ rfl⟩

/-- A block with a method that is renamed twice. -/
def twiceRenamedBlock : Block where
  selfType := "Counter"
  selfName := some "Counter"
  isTrait := false
  isGeneric := false
  items :=
    [ .function ⟨"value", true, false, some .shared, [], .type (some "i64"),
        [⟨"rename", .list [⟨.text "Get", "\"Get\""⟩]⟩,
          ⟨"rename", .list [⟨.text "Value", "\"Value\""⟩]⟩]⟩ ]

/-- Not every expanded function is without markers: one that is renamed twice keeps the second. -/
theorem second_renaming_stays :
    ¬∀ (properties : List Token) (block : Block) (expansion : Expansion),
      expand properties block = .ok expansion →
      ∀ emitted ∈ expansion.functions, ∀ marker ∈ emitted.attributes, marker.isMarker = false := by
  intro unmarked
  obtain ⟨expansion, expands, emitted, found, marker, kept, isMarker⟩ :
      ∃ expansion, expand [] twiceRenamedBlock = .ok expansion ∧
        ∃ emitted ∈ expansion.functions, ∃ marker ∈ emitted.attributes,
          marker.isMarker = true := by
    refine ⟨_, rfl, ?_⟩
    decide +kernel
  have stripped := unmarked [] twiceRenamedBlock expansion expands emitted found marker kept
  exact absurd isMarker (Bool.eq_false_iff.mp stripped)

end ObjectBridge.Source
