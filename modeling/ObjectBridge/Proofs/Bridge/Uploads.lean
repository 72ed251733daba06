import ObjectBridge.Bridge.Basic
import ObjectBridge.Proofs.Reflect.Publishing
import ObjectBridge.Proofs.Reflect.QualifiedNames

/-!
# Uploads in order

A host declares modules, loads them into contexts and uploads their native functions, in any
order and any number of times.  What the bridge answers about native functions is a replay of
the uploads: the last one that publishes under a name decides, whatever came of loads.
-/

namespace ObjectBridge

/-! ## Modules and their native functions -/

namespace ModuleDeclaration

/-- The native function that a module declares last under a qualified name, apart from those
that point nowhere. -/
def lastNamed? (declaration : ModuleDeclaration) (name : String) : Option Address :=
  (declaration.calls.reverse.find? fun call =>
    !call.entry.isNull &&
      qualifiedName call.className call.member declaration.name == name).map (·.entry)

/-- The native function that a module declares last for a class and a member, apart from those
that point nowhere. -/
def lastFor? (declaration : ModuleDeclaration) (className member : String) : Option Address :=
  (declaration.calls.reverse.find? fun call =>
    !call.entry.isNull && (call.className == className && call.member == member)).map (·.entry)

theorem lastNamed?_eq (declaration : ModuleDeclaration) (name : String) :
    declaration.lastNamed? name =
      (declaration.published.reverse.find? (·.name == name)).map (·.entry) := by
  rw [lastNamed?, published, ← List.map_reverse, List.find?_map, ← List.filter_reverse,
    List.find?_filter, Option.map_map]
  simp [Function.comp_def, beq_eq_decide]

/-- A name that is separated once is declared by the modules that are part of it only. -/
theorem lastNamed?_of_separatedOnce (declaration : ModuleDeclaration)
    {className member moduleName : String} (once : SeparatedOnce className member moduleName) :
    declaration.lastNamed? (qualifiedName className member moduleName) =
      if declaration.name = moduleName then declaration.lastFor? className member else none := by
  have nameIff (call : CallDeclaration) :
      qualifiedName call.className call.member declaration.name =
        qualifiedName className member moduleName ↔
      declaration.name = moduleName ∧ call.className = className ∧ call.member = member := by
    constructor
    · intro same
      obtain ⟨classEq, memberEq, moduleEq⟩ := once.eq_of_qualifiedName_eq same
      exact ⟨moduleEq, classEq, memberEq⟩
    · rintro ⟨moduleEq, classEq, memberEq⟩
      rw [moduleEq, classEq, memberEq]
  rw [lastNamed?, lastFor?]
  by_cases here : declaration.name = moduleName
  · subst here
    rw [if_pos rfl]
    congr 2
    funext call
    rw [Bool.eq_iff_iff]
    simp [nameIff]
  · rw [if_neg here, Option.map_eq_none_iff, List.find?_eq_none]
    intro call _
    rw [Bool.and_eq_true, beq_iff_eq, nameIff]
    exact fun declares => here declares.2.1

end ModuleDeclaration

/-! ## Hosts -/

/-- What a host does with its modules. -/
inductive ModuleStep where
  | declare (declaration : ModuleDeclaration)
  | load (context : String) (declaration : ModuleDeclaration)
  | upload (declaration : ModuleDeclaration)

/-- The module that a step uploads. -/
def ModuleStep.uploaded? : ModuleStep → Option ModuleDeclaration
  | upload declaration => some declaration
  | declare _ | load _ _ => none

namespace Bridge

/-- Do what a host does, in order, and gather the answers to its uploads. -/
def prepare (bridge : Bridge) : List ModuleStep → List Nat × Bridge
  | [] => ([], bridge)
  | .declare declaration :: rest => (bridge.declare declaration).2.prepare rest
  | .load context declaration :: rest => (bridge.load context declaration.toModule).2.prepare rest
  | .upload declaration :: rest =>
      let (count, after) := bridge.upload declaration.toModule
      let (counts, last) := after.prepare rest
      (count :: counts, last)

variable {bridge : Bridge} {name : String}

theorem calls_tellAll (bridge : Bridge) (events : List Event) :
    (bridge.tellAll events).calls = bridge.calls := by
  induction events generalizing bridge with
  | nil => rfl
  | cons event rest ih => exact ih (bridge.tell event)

theorem calls_upload (bridge : Bridge) (declaration : ModuleDeclaration) :
    (bridge.upload declaration.toModule).2.calls =
      bridge.calls.upload declaration.published := by
  rw [← declaration.calls_toModule]
  exact calls_tellAll _ _

/-- Only uploads publish, each what its module declares. -/
theorem calls_prepare (bridge : Bridge) (steps : List ModuleStep) :
    (bridge.prepare steps).2.calls = bridge.calls.upload
      ((steps.filterMap ModuleStep.uploaded?).flatMap ModuleDeclaration.published) := by
  induction steps generalizing bridge with
  | nil => rfl
  | cons step rest ih =>
      cases step with
      | declare declaration =>
          exact (ih _).trans (congrArg (CallTable.upload · _) (calls_tellAll _ _))
      | load context declaration =>
          exact (ih _).trans (congrArg (CallTable.upload · _) (calls_tellAll _ _))
      | upload declaration =>
          change ((bridge.upload declaration.toModule).2.prepare rest).2.calls =
            bridge.calls.upload (declaration.published ++
              (rest.filterMap ModuleStep.uploaded?).flatMap ModuleDeclaration.published)
          rw [ih, calls_upload, CallTable.upload_append]

/-- Each upload is answered with the number of functions that its module publishes. -/
theorem counts_prepare (bridge : Bridge) (steps : List ModuleStep) :
    (bridge.prepare steps).1 =
      (steps.filterMap ModuleStep.uploaded?).map (·.published.length) := by
  induction steps generalizing bridge with
  | nil => rfl
  | cons step rest ih =>
      cases step with
      | declare declaration => exact ih _
      | load context declaration => exact ih _
      | upload declaration =>
          have countEq : (bridge.upload declaration.toModule).1 = declaration.published.length :=
            congrArg List.length declaration.calls_toModule
          exact congrArg₂ List.cons countEq (ih _)

/-- A name leads to what the last upload that publishes under it declares last, or to what it
led to before. -/
theorem lookup?_prepare (bridge : Bridge) (steps : List ModuleStep) (name : String) :
    (bridge.prepare steps).2.calls.lookup? name =
      ((steps.filterMap ModuleStep.uploaded?).reverse.findSome? (·.lastNamed? name)).or
        (bridge.calls.lookup? name) := by
  have lastEq : (fun declaration : ModuleDeclaration => declaration.lastNamed? name) =
      fun declaration =>
        (declaration.published.reverse.find? (·.name == name)).map (·.entry) := by
    funext declaration
    exact declaration.lastNamed?_eq name
  rw [calls_prepare, CallTable.lookup?_upload, lastEq, List.reverse_flatMap, List.find?_flatMap,
    List.map_findSome?]
  rfl

/-- The names that lead anywhere are those that were published. -/
theorem size_calls_prepare (options : BridgeOptions) (registry : TypeRegistry)
    (steps : List ModuleStep) :
    ((new options registry).prepare steps).2.calls.size =
      ((steps.filterMap ModuleStep.uploaded?).flatMap fun declaration =>
        declaration.published.map (·.name)).toFinset.card := by
  have namesNodup : ((new options registry).prepare steps).2.calls.names.Nodup := by
    rw [calls_prepare]
    exact CallTable.nodup_names_upload List.nodup_nil
  have sameNames : ((new options registry).prepare steps).2.calls.names.toFinset =
      ((steps.filterMap ModuleStep.uploaded?).flatMap fun declaration =>
        declaration.published.map (·.name)).toFinset := by
    ext name
    rw [List.mem_toFinset, List.mem_toFinset, calls_prepare, CallTable.mem_names_upload,
      List.map_flatMap]
    simp [new, CallTable.empty, CallTable.names]
  rw [← sameNames, List.toFinset_card_of_nodup namesNodup, CallTable.names, List.length_map,
    CallTable.size]

/-! ## Replay -/

/-- After whatever a host does with its modules, a qualified name leads to the last function
that the last upload to publish under it declares, and to none if no upload does.  Functions
that point nowhere do not count, and neither does what comes of loads.  As many names lead
anywhere as were published, each upload is answered with the number of functions that its
module publishes, and a name that leads somewhere keeps doing so. -/
theorem calls_replay_uploads (options : BridgeOptions) (registry : TypeRegistry)
    (steps : List ModuleStep) :
    let uploaded := steps.filterMap ModuleStep.uploaded?
    let counts := ((new options registry).prepare steps).1
    let bridge := ((new options registry).prepare steps).2
    (∀ name, bridge.calls.lookup? name = uploaded.reverse.findSome? (·.lastNamed? name)) ∧
    bridge.calls.size =
      (uploaded.flatMap fun declaration =>
        (declaration.calls.filter (!·.entry.isNull)).map fun call =>
          qualifiedName call.className call.member declaration.name).toFinset.card ∧
    counts = uploaded.map (fun declaration =>
      (declaration.calls.filter (!·.entry.isNull)).length) ∧
    ∀ name later, (bridge.calls.lookup? name).isSome = true →
      ((bridge.prepare later).2.calls.lookup? name).isSome = true := by
  intro uploaded counts bridge
  refine ⟨?_, ?_, ?_, ?_⟩
  · intro name
    exact (lookup?_prepare _ steps name).trans Option.or_none
  · simpa only [ModuleDeclaration.published, List.map_map, Function.comp_def] using
      size_calls_prepare options registry steps
  · simpa only [ModuleDeclaration.published, List.length_map] using
      counts_prepare (new options registry) steps
  · intro name later known
    rw [lookup?_prepare, Option.isSome_or, known, Bool.or_true]

/-- A later upload overrides an earlier one and itself, function by function, and one that
points nowhere overrides nothing. -/
theorem calls_replay_uploads_timer :
    let first : ModuleDeclaration := ⟨"Hooks", "1", [],
      [⟨"Timer", "Now", ⟨0x10⟩⟩, ⟨"Timer", "Now", ⟨0x20⟩⟩, ⟨"Timer", "Sleep", ⟨0x30⟩⟩]⟩
    let second : ModuleDeclaration := ⟨"Hooks", "2", [],
      [⟨"Timer", "Sleep", ⟨0x40⟩⟩, ⟨"Timer", "Now", .null⟩]⟩
    let steps : List ModuleStep := [.upload first, .load "Default" second, .upload second]
    let bridge := ((new .defaults .empty).prepare steps).2
    bridge.calls.lookup? "Timer+Now, Hooks" = some ⟨0x20⟩ ∧
      bridge.calls.lookup? "Timer+Sleep, Hooks" = some ⟨0x40⟩ ∧
      bridge.calls.size = 2 ∧
      ((new .defaults .empty).prepare steps).1 = [3, 1] ∧
      ((bridge.prepare [.upload first]).2.calls.lookup? "Timer+Now, Hooks").isSome = true := by
  intro first second steps bridge
  obtain ⟨leads, size, counts, keeps⟩ := calls_replay_uploads .defaults .empty steps
  have known : bridge.calls.lookup? "Timer+Now, Hooks" = some ⟨0x20⟩ :=
    (leads _).trans (by decide)
  exact ⟨known, (leads _).trans (by decide), size.trans (by decide), counts.trans (by decide),
    keeps _ _ (by rw [known]; rfl)⟩

/-! ## Functions of members -/

/-- The function of a class, a member and a module is the last that was published under their
qualified name.  If the name is separated once it belongs to no others, and then the function
is the last that was declared for just that class and member on a module of just that name;
else others share it. -/
theorem internal_calls_follow_names (options : BridgeOptions) (registry : TypeRegistry)
    (steps : List ModuleStep) (className member moduleName : String) :
    let uploaded := steps.filterMap ModuleStep.uploaded?
    let calls := ((new options registry).prepare steps).2.calls
    calls.internalCall? className member moduleName =
      uploaded.reverse.findSome? (·.lastNamed? (qualifiedName className member moduleName)) ∧
    (SeparatedOnce className member moduleName →
      calls.internalCall? className member moduleName =
        uploaded.reverse.findSome? fun declaration =>
          if declaration.name = moduleName then declaration.lastFor? className member
          else none) ∧
    (SeparatedOnce className member moduleName ↔
      ∀ otherClass otherMember otherModule : String,
        qualifiedName otherClass otherMember otherModule =
          qualifiedName className member moduleName →
        otherClass = className ∧ otherMember = member ∧ otherModule = moduleName) := by
  intro uploaded calls
  have leads : calls.internalCall? className member moduleName =
      uploaded.reverse.findSome? (·.lastNamed? (qualifiedName className member moduleName)) :=
    (lookup?_prepare _ steps _).trans Option.or_none
  refine ⟨leads, fun once => ?_, separatedOnce_iff⟩
  rw [leads]
  congr 1
  funext declaration
  exact declaration.lastNamed?_of_separatedOnce once

/-- Neither a class whose member has the same name with a plus nor a module whose name goes on
after a comma is taken for another. -/
theorem internal_calls_follow_names_timer :
    let hooks : ModuleDeclaration := ⟨"Hooks", "1", [],
      [⟨"Hooks.Timer", "Now", ⟨0x10⟩⟩, ⟨"Hooks", "Timer+Now", ⟨0x20⟩⟩]⟩
    let others : ModuleDeclaration := ⟨"Hooks, Other", "1", [], [⟨"Hooks.Timer", "Now", ⟨0x30⟩⟩]⟩
    SeparatedOnce "Hooks.Timer" "Now" "Hooks" ∧
      ((new .defaults .empty).prepare [.upload hooks, .upload others]).2.calls.internalCall?
        "Hooks.Timer" "Now" "Hooks" = some ⟨0x10⟩ := by
  intro hooks others
  have once : SeparatedOnce "Hooks.Timer" "Now" "Hooks" := by decide
  have follows := (internal_calls_follow_names .defaults .empty [.upload hooks, .upload others]
    "Hooks.Timer" "Now" "Hooks").2.1 once
  exact ⟨once, follows.trans (by decide)⟩

/-- The member of a nested class and a member of the outer class share a qualified name, and
the function of the one is taken for that of the other. -/
theorem nested_class_shares_name :
    let shapes : ModuleDeclaration := ⟨"Demo", "1", [],
      [⟨"Shapes+Circle", "Area", ⟨0x10⟩⟩, ⟨"Shapes", "Circle+Area", ⟨0x20⟩⟩]⟩
    let calls := ((new .defaults .empty).prepare [.upload shapes]).2.calls
    shapes.lastFor? "Shapes+Circle" "Area" = some ⟨0x10⟩ ∧
      calls.internalCall? "Shapes+Circle" "Area" "Demo" = some ⟨0x20⟩ := by
  decide

end Bridge

end ObjectBridge
