import Mathlib.Data.Finset.Card
import Mathlib.Data.List.Induction
import ObjectBridge.Reflect.Registry

/-!
# What loads leave behind

A registry is built up load by load.  Everything that it answers can be read off the
history of its loads: a name leads to the first type that a successful load brought under
it, and the contexts list all loads, successful or not.  `Follows` says so of a registry
and a history, and every load keeps it.
-/

namespace ObjectBridge

/-- A module to be loaded into a context. -/
structure Load where
  context : String
  module : TypeModule

/-- A load and what came of it. -/
structure LoadRecord extends Load where
  status : LoadStatus

/-- The types that a load brings: none unless it succeeds. -/
def LoadRecord.types (record : LoadRecord) : List TypeDescriptor :=
  if record.status = .success then record.module.types else []

/-- What a registry keeps of a load. -/
def LoadRecord.summary (record : LoadRecord) : ModuleSummary :=
  ⟨record.module.fullName, record.status, record.types.map (·.name)⟩

namespace TypeRegistry

/-- Load modules in order, and gather what comes of each load. -/
def loadAll (registry : TypeRegistry) : List Load → List LoadRecord × TypeRegistry
  | [] => ([], registry)
  | load :: rest =>
      let (status, after) := registry.load load.context load.module
      let (history, last) := after.loadAll rest
      ({ load with status } :: history, last)

/-! ## The index -/

section Index

variable {index : List (String × TypeDescriptor)} {type : TypeDescriptor}
  {types : List TypeDescriptor} {name : String}

/-- A type is found under its name unless another was before. -/
theorem lookup_indexType :
    (indexType index type).lookup name =
      (index.lookup name).or (if type.name == name then some type else none) := by
  rw [indexType]
  split
  · rename_i known
    by_cases named : type.name = name
    · subst named
      obtain ⟨first, firstEq⟩ := Option.isSome_iff_exists.mp known
      rw [firstEq, Option.some_or]
    · simp [named]
  · rw [List.lookup_append, List.lookup_cons, List.lookup_nil, Bool.beq_comm]
    cases type.name == name <;> rfl

/-- Of several types with one name the first is found, unless another was before. -/
theorem lookup_foldl_indexType :
    (types.foldl indexType index).lookup name =
      (index.lookup name).or (types.find? (·.name == name)) := by
  induction types generalizing index with
  | nil => simp
  | cons type types ih =>
      rw [List.foldl_cons, ih, lookup_indexType, Option.or_assoc, List.find?_cons]
      cases type.name == name <;> simp

theorem mem_keys_iff : name ∈ index.map (·.1) ↔ (index.lookup name).isSome = true := by
  simp only [List.mem_map, List.lookup_isSome_iff, beq_iff_eq, @eq_comm _ name]

theorem nodup_indexType (nodup : (index.map (·.1)).Nodup) :
    ((indexType index type).map (·.1)).Nodup := by
  rw [indexType]
  split
  · exact nodup
  · rename_i unknown
    rw [← mem_keys_iff] at unknown
    rw [List.map_append, List.map_singleton, ← List.concat_eq_append]
    exact nodup.concat unknown

theorem nodup_foldl_indexType (nodup : (index.map (·.1)).Nodup) :
    ((types.foldl indexType index).map (·.1)).Nodup := by
  induction types generalizing index with
  | nil => exact nodup
  | cons type types ih => exact ih (nodup_indexType nodup)

end Index

/-! ## The contexts -/

section Contexts

private theorem eraseDups_concat (names : List String) (name : String) :
    (names ++ [name]).eraseDups =
      if name ∈ names then names.eraseDups else names.eraseDups ++ [name] := by
  rw [List.eraseDups_append, List.removeAll]
  by_cases known : name ∈ names <;> simp [known, List.eraseDups_cons]

private theorem nodup_eraseDups (names : List String) : names.eraseDups.Nodup := by
  induction names using List.reverseRecOn with
  | nil => simp
  | append_singleton names name ih =>
      rw [eraseDups_concat]
      split
      · exact ih
      · rename_i unknown
        rw [← List.concat_eq_append]
        exact ih.concat (mt List.mem_eraseDups.mp unknown)

/-- A record goes to the end of its context, and to a new context at the end if there is
none. -/
private theorem appendRecord_map {names : List String} (nodup : names.Nodup)
    (modules : String → List ModuleSummary) (context : String) (summary : ModuleSummary) :
    appendRecord (names.map fun name => ⟨name, modules name⟩) context summary =
      (names.map fun name =>
        ⟨name, if name = context then modules name ++ [summary] else modules name⟩) ++
      if context ∈ names then [] else [⟨context, [summary]⟩] := by
  induction names with
  | nil => rfl
  | cons first rest ih =>
      obtain ⟨firstNew, restNodup⟩ := List.nodup_cons.mp nodup
      by_cases here : first = context
      · subst here
        have others : (rest.map fun name => (⟨name, modules name⟩ : ContextSummary)) =
            rest.map fun name =>
              ⟨name, if name = first then modules name ++ [summary] else modules name⟩ := by
          apply List.map_congr_left
          intro name member
          have different : name ≠ first := fun same => firstNew (same ▸ member)
          rw [if_neg different]
        simp [appendRecord, others]
      · simp [appendRecord, here, Ne.symm here, ih restNodup]

end Contexts

/-! ## Histories -/

/-- The contexts that loads were made into, in order of first use, each with the records
of its loads in order. -/
def contextsOf (history : List LoadRecord) : List ContextSummary :=
  (history.map (·.context)).eraseDups.map fun context =>
    ⟨context, (history.filter (·.context == context)).map LoadRecord.summary⟩

/-- Whether an earlier load of a module of the same full name into the same context
succeeded. -/
def LoadedBefore (history : List LoadRecord) (load : Load) : Prop :=
  ∃ earlier ∈ history, earlier.context = load.context ∧
    earlier.module.fullName = load.module.fullName ∧ earlier.status = .success

instance (history : List LoadRecord) (load : Load) : Decidable (LoadedBefore history load) :=
  inferInstanceAs (Decidable (∃ earlier ∈ history, _))

/-- What comes of a load after others. -/
def statusAfter (history : List LoadRecord) (load : Load) : LoadStatus :=
  if load.module.name = "" then .invalidModule
  else if LoadedBefore history load then .alreadyLoaded
  else .success

/-- A registry is what the loads of a history made of it, and each load came to what it
had to after those before it. -/
structure Follows (registry : TypeRegistry) (history : List LoadRecord) : Prop where
  contexts_eq : registry.contexts = contextsOf history
  index_eq : registry.index = (history.flatMap LoadRecord.types).foldl indexType []
  status_eq : ∀ before record later, history = before ++ record :: later →
    record.status = statusAfter before record.toLoad

variable {registry : TypeRegistry} {history : List LoadRecord}

theorem follows_empty : empty.Follows [] where
  contexts_eq := rfl
  index_eq := rfl
  status_eq before record later absurdity := by simp at absurdity

private theorem contextsOf_concat (history : List LoadRecord) (record : LoadRecord) :
    contextsOf (history ++ [record]) =
      appendRecord (contextsOf history) record.context record.summary := by
  rw [contextsOf, contextsOf, appendRecord_map (nodup_eraseDups _), List.map_append,
    List.map_singleton, eraseDups_concat]
  have modulesEq (context : String) :
      ((history ++ [record]).filter (·.context == context)).map LoadRecord.summary =
        if context = record.context then
          (history.filter (·.context == context)).map LoadRecord.summary ++ [record.summary]
        else (history.filter (·.context == context)).map LoadRecord.summary := by
    by_cases here : context = record.context
    · simp [here]
    · simp [here, Ne.symm here]
  simp only [modulesEq, List.mem_eraseDups]
  by_cases known : record.context ∈ history.map (·.context)
  · rw [if_pos known, if_pos known, List.append_nil]
  · have noneYet : history.filter (·.context == record.context) = [] := by
      rw [List.filter_eq_nil_iff]
      intro earlier member same
      exact known (List.mem_map.mpr ⟨earlier, member, eq_of_beq same⟩)
    rw [if_neg known, if_neg known, List.map_append, List.map_singleton, if_pos rfl, noneYet]
    rfl

theorem Follows.statusOf_eq (follows : registry.Follows history) (load : Load) :
    registry.statusOf load.context load.module = statusAfter history load := by
  have loadedIff : registry.hasLoaded load.context load.module.fullName = true ↔
      LoadedBefore history load := by
    rw [hasLoaded, follows.contexts_eq, contextsOf, LoadedBefore]
    simp only [List.any_eq_true, List.mem_map, List.mem_eraseDups, Bool.and_eq_true, beq_iff_eq]
    constructor
    · rintro ⟨_, ⟨context, _, rfl⟩, rfl, summary, listed, succeeded, named⟩
      obtain ⟨earlier, member, rfl⟩ := List.mem_map.mp listed
      obtain ⟨inHistory, here⟩ := List.mem_filter.mp member
      exact ⟨earlier, inHistory, eq_of_beq here, named, succeeded⟩
    · rintro ⟨earlier, member, here, named, succeeded⟩
      refine ⟨_, ⟨load.context, ⟨earlier, member, here⟩, rfl⟩, rfl, earlier.summary, ?_,
        succeeded, named⟩
      exact List.mem_map_of_mem (List.mem_filter.mpr ⟨member, beq_iff_eq.mpr here⟩)
  simp only [statusOf, statusAfter, String.isEmpty_iff, loadedIff]

/-- A load adds itself to the history. -/
theorem Follows.load (follows : registry.Follows history) (load : Load) :
    (registry.load load.context load.module).2.Follows
      (history ++ [{ load with status := (registry.load load.context load.module).1 }]) where
  contexts_eq := by
    rw [contextsOf_concat, ← follows.contexts_eq]
    rfl
  index_eq := by
    rw [List.flatMap_append, List.foldl_append, ← follows.index_eq]
    simp [TypeRegistry.load, LoadRecord.types]
  status_eq before record later split := by
    rcases List.eq_nil_or_concat later with rfl | ⟨later, last, rfl⟩
    · obtain ⟨rfl, lastEq⟩ := List.append_inj' split rfl
      cases lastEq
      exact follows.statusOf_eq load
    · rw [List.concat_eq_append, ← List.cons_append, ← List.append_assoc] at split
      obtain ⟨earlier, _⟩ := List.append_inj' split rfl
      exact follows.status_eq before record later earlier

/-- Loads add themselves to the history in order. -/
theorem Follows.loadAll (follows : registry.Follows history) (loads : List Load) :
    (registry.loadAll loads).2.Follows (history ++ (registry.loadAll loads).1) := by
  induction loads generalizing registry history with
  | nil => simpa [TypeRegistry.loadAll] using follows
  | cons load rest ih =>
      have rested := ih (follows.load load)
      rwa [List.append_assoc] at rested

theorem toLoad_loadAll (registry : TypeRegistry) (loads : List Load) :
    (registry.loadAll loads).1.map (·.toLoad) = loads := by
  induction loads generalizing registry with
  | nil => rfl
  | cons load rest ih => exact congrArg (load :: ·) (ih _)

/-! ## Resolution -/

private theorem types_eq (history : List LoadRecord) :
    history.flatMap LoadRecord.types =
      (history.filter (·.status = .success)).flatMap fun record => record.module.types := by
  induction history with
  | nil => rfl
  | cons record rest ih =>
      rw [List.flatMap_cons, ih, LoadRecord.types]
      by_cases succeeded : record.status = .success <;> simp [succeeded]

theorem Follows.findType?_eq (follows : registry.Follows history) (name : String) :
    registry.findType? name = (history.flatMap LoadRecord.types).find? (·.name == name) := by
  rw [findType?, follows.index_eq, lookup_foldl_indexType]
  rfl

theorem Follows.findType?_isSome_iff (follows : registry.Follows history) {name : String} :
    (registry.findType? name).isSome = true ↔
      name ∈ (history.flatMap LoadRecord.types).map (·.name) := by
  rw [follows.findType?_eq, List.find?_isSome, List.mem_map]
  simp only [beq_iff_eq]

theorem Follows.typeCount_eq (follows : registry.Follows history) :
    registry.typeCount =
      ((history.flatMap LoadRecord.types).map (·.name)).toFinset.card := by
  have keysNodup : (registry.index.map (·.1)).Nodup := by
    rw [follows.index_eq]
    exact nodup_foldl_indexType List.nodup_nil
  have sameNames : (registry.index.map (·.1)).toFinset =
      ((history.flatMap LoadRecord.types).map (·.name)).toFinset := by
    ext name
    rw [List.mem_toFinset, List.mem_toFinset, mem_keys_iff, ← follows.findType?_isSome_iff]
    rfl
  rw [← sameNames, List.toFinset_card_of_nodup keysNodup, List.length_map, typeCount]

/-- Whatever is loaded, a name that leads to a type keeps leading to it. -/
theorem findType?_loadAll {name : String} {type : TypeDescriptor}
    (found : registry.findType? name = some type) (later : List Load) :
    (registry.loadAll later).2.findType? name = some type := by
  induction later generalizing registry with
  | nil => exact found
  | cons load rest ih =>
      apply ih
      have known : registry.index.lookup name = some type := found
      exact lookup_foldl_indexType.trans (by rw [known, Option.some_or])

/-- After any loads, a name leads to the first type of that name in the first module that
was loaded with success and declares one, whatever the contexts.  No later load changes
what a name leads to, and the types are counted by their names. -/
theorem resolution_follows_history (loads : List Load) :
    let history := (empty.loadAll loads).1
    let registry := (empty.loadAll loads).2
    let loaded := history.filter (·.status = .success)
    history.map (·.toLoad) = loads ∧
    (∀ name, registry.findType? name =
      loaded.findSome? fun record => record.module.types.find? (·.name == name)) ∧
    (∀ name type later, registry.findType? name = some type →
      (registry.loadAll later).2.findType? name = some type) ∧
    registry.typeCount =
      (loaded.flatMap fun record => record.module.types.map (·.name)).toFinset.card := by
  intro history registry loaded
  have follows : registry.Follows history := follows_empty.loadAll loads
  refine ⟨toLoad_loadAll empty loads, ?_, ?_, ?_⟩
  · intro name
    rw [follows.findType?_eq, types_eq, List.find?_flatMap]
  · intro name type later found
    exact findType?_loadAll found later
  · rw [follows.typeCount_eq, types_eq, List.map_flatMap]

/-- Of two types of one name the first is found, and one of that name that another
context gets later does not take its place. -/
theorem resolution_follows_history_shadowed :
    let first : TypeDescriptor := ⟨"Cell", [], []⟩
    let second : TypeDescriptor := ⟨"Cell", [⟨[], fun _ => .done ⟨"Cell", []⟩⟩], []⟩
    let registry := (empty.loadAll [⟨"Default", ⟨"", "1", [second], []⟩⟩,
      ⟨"Default", ⟨"Cells", "1", [first, second], []⟩⟩]).2
    registry.typeCount = 1 ∧ registry.findType? "Cell" = some first ∧
      (registry.loadAll [⟨"Other", ⟨"Cells", "1", [second], []⟩⟩]).2.findType? "Cell" =
        some first := by
  intro first second registry
  obtain ⟨_, resolves, persists, counts⟩ :=
    resolution_follows_history [⟨"Default", ⟨"", "1", [second], []⟩⟩,
      ⟨"Default", ⟨"Cells", "1", [first, second], []⟩⟩]
  exact ⟨counts.trans rfl, resolves "Cell", persists "Cell" first _ rfl⟩

/-! ## Records -/

/-- The types that loads brought are those that are listed under their contexts. -/
theorem mem_types_iff_listed (history : List LoadRecord) (name : String) :
    name ∈ (history.flatMap LoadRecord.types).map (·.name) ↔
      ∃ context ∈ contextsOf history, ∃ summary ∈ context.modules, name ∈ summary.types := by
  rw [List.map_flatMap, List.mem_flatMap]
  constructor
  · rintro ⟨record, member, listed⟩
    have used : record.context ∈ (history.map (·.context)).eraseDups :=
      List.mem_eraseDups.mpr (List.mem_map_of_mem member)
    have here : record ∈ history.filter (·.context == record.context) :=
      List.mem_filter.mpr ⟨member, beq_self_eq_true _⟩
    exact ⟨_, List.mem_map_of_mem used, record.summary, List.mem_map_of_mem here, listed⟩
  · rintro ⟨_, member, summary, kept, listed⟩
    obtain ⟨context, _, rfl⟩ := List.mem_map.mp member
    obtain ⟨record, here, rfl⟩ := List.mem_map.mp kept
    exact ⟨record, (List.mem_filter.mp here).1, listed⟩

/-- Each load comes to what its module's name and the earlier loads into its context say.
The contexts are those that were loaded into, each once and in order of first use, with
every load made into it in order; the types of a module are listed if it was loaded with
success.  The names that are listed are those that lead to a type. -/
theorem records_agree_with_resolution (loads : List Load) :
    let history := (empty.loadAll loads).1
    let registry := (empty.loadAll loads).2
    history.map (·.toLoad) = loads ∧
    (∀ before record later, history = before ++ record :: later →
      record.status =
        if record.module.name = "" then .invalidModule
        else if LoadedBefore before record.toLoad then .alreadyLoaded
        else .success) ∧
    registry.contexts = (history.map (·.context)).eraseDups.map (fun context =>
      ⟨context, (history.filter (·.context == context)).map fun record =>
        ⟨record.module.fullName, record.status,
          if record.status = .success then record.module.types.map (·.name) else []⟩⟩) ∧
    (registry.contexts.map (·.name)).Nodup ∧
    ∀ name, (registry.findType? name).isSome = true ↔
      ∃ context ∈ registry.contexts, ∃ summary ∈ context.modules, name ∈ summary.types := by
  intro history registry
  have follows : registry.Follows history := follows_empty.loadAll loads
  have summaryEq : LoadRecord.summary = fun record =>
      ⟨record.module.fullName, record.status,
        if record.status = .success then record.module.types.map (·.name) else []⟩ := by
    funext record
    rw [LoadRecord.summary, LoadRecord.types]
    split <;> rfl
  refine ⟨toLoad_loadAll empty loads, follows.status_eq, ?_, ?_, ?_⟩
  · rw [follows.contexts_eq, contextsOf, summaryEq]
  · rw [follows.contexts_eq, contextsOf, List.map_map]
    simpa [Function.comp_def] using nodup_eraseDups (history.map (·.context))
  · intro name
    rw [follows.findType?_isSome_iff, mem_types_iff_listed, follows.contexts_eq]

/-- A refused load is recorded and does not stand in the way of a later one, which stands
in the way of its own repetition. -/
theorem records_agree_with_resolution_refused :
    let cell : TypeDescriptor := ⟨"Cell", [], []⟩
    let nameless : Load := ⟨"Default", ⟨"", "1", [cell], []⟩⟩
    let cells : Load := ⟨"Other", ⟨"Cells", "1", [cell], []⟩⟩
    let history := (empty.loadAll [nameless, cells, cells]).1
    let registry := (empty.loadAll [nameless, cells, cells]).2
    history = [⟨nameless, .invalidModule⟩, ⟨cells, .success⟩, ⟨cells, .alreadyLoaded⟩] ∧
      LoadedBefore [⟨nameless, .invalidModule⟩, ⟨cells, .success⟩] cells ∧
      registry.contexts.map (·.name) = ["Default", "Other"] := by
  intro cell nameless cells history registry
  obtain ⟨_, statuses, contexts, _⟩ :=
    records_agree_with_resolution [nameless, cells, cells]
  have split : history =
      [⟨nameless, .invalidModule⟩, ⟨cells, .success⟩] ++ ⟨cells, .alreadyLoaded⟩ :: [] := rfl
  refine ⟨split, ?_, (congrArg (List.map (·.name)) contexts).trans rfl⟩
  have statusEq := statuses _ _ _ split
  rw [if_neg (by decide)] at statusEq
  by_contra notLoaded
  rw [if_neg notLoaded] at statusEq
  contradiction

end TypeRegistry

end ObjectBridge
