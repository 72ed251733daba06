import Mathlib.Data.Finset.Card
import ObjectBridge.Reflect.Declaration

/-!
# Published native functions

What the call table says of a name, and which names it holds, after native functions are
published.  Each publication is either new or takes the place of the one before it, so a name
leads to the last function that was published under it.
-/

namespace ObjectBridge

namespace CallTable

variable {table : CallTable} {call : InternalCall} {calls : List InternalCall} {name : String}

/-! ## What a name leads to -/

private theorem lookup_replace (entries : List (String × Address)) (replaced name : String)
    (entry : Address) :
    (entries.map fun old => if old.1 = replaced then (old.1, entry) else old).lookup name =
      if replaced = name then (entries.lookup name).map fun _ => entry
      else entries.lookup name := by
  induction entries with
  | nil => simp
  | cons first rest ih =>
      rcases first with ⟨key, old⟩
      by_cases here : key = replaced
      · subst here
        by_cases named : key = name
        · subst named
          simp
        · have unlike : (name == key) = false := beq_false_of_ne (Ne.symm named)
          simp only [List.map_cons, if_true, List.lookup_cons, unlike, ih]
      · by_cases named : key = name
        · subst named
          simp [here, Ne.symm here]
        · have unlike : (name == key) = false := beq_false_of_ne (Ne.symm named)
          simp only [List.map_cons, if_neg here, List.lookup_cons, unlike, ih]

/-- A name leads to the function that is published under it, and no other name is affected. -/
theorem lookup?_publish :
    (table.publish call).lookup? name =
      if call.name = name then some call.entry else table.lookup? name := by
  rw [publish]
  split
  · rename_i known
    obtain ⟨old, oldEq⟩ := Option.isSome_iff_exists.mp known
    rw [lookup?, lookup_replace]
    by_cases named : call.name = name
    · subst named
      rw [if_pos rfl, if_pos rfl, ← lookup?, oldEq, Option.map_some]
    · rw [if_neg named, if_neg named, lookup?]
  · rename_i unknown
    rw [Option.isSome_iff_ne_none, not_not, lookup?] at unknown
    rw [lookup?, List.lookup_append, List.lookup_cons, List.lookup_nil, lookup?]
    by_cases named : call.name = name
    · subst named
      simp [unknown]
    · have unlike : (name == call.name) = false := beq_false_of_ne (Ne.symm named)
      simp [unlike, named]

theorem upload_append (table : CallTable) (calls later : List InternalCall) :
    table.upload (calls ++ later) = (table.upload calls).upload later :=
  List.foldl_append

/-- Of several functions that are published under a name the last is found. -/
theorem lookup?_upload :
    (table.upload calls).lookup? name =
      ((calls.reverse.find? (·.name == name)).map (·.entry)).or (table.lookup? name) := by
  induction calls generalizing table with
  | nil => simp [upload]
  | cons call rest ih =>
      have uploadEq : table.upload (call :: rest) = (table.publish call).upload rest := rfl
      rw [uploadEq, ih, lookup?_publish, List.reverse_cons, List.find?_append]
      by_cases named : call.name = name
      · subst named
        simp
      · simp [named]

/-! ## Which names lead anywhere -/

/-- The names that functions are published under. -/
def names (table : CallTable) : List String := table.entries.map (·.1)

theorem mem_names_iff : name ∈ table.names ↔ (table.lookup? name).isSome = true := by
  simp only [names, lookup?, List.mem_map, List.lookup_isSome_iff, beq_iff_eq, @eq_comm _ name]

theorem names_publish :
    (table.publish call).names =
      if call.name ∈ table.names then table.names else table.names ++ [call.name] := by
  rw [publish]
  simp only [mem_names_iff]
  split
  · simp only [names, List.map_map]
    apply List.map_congr_left
    intro entry _
    by_cases here : entry.1 = call.name <;> simp [here]
  · simp [names]

theorem nodup_names_publish (nodup : table.names.Nodup) : (table.publish call).names.Nodup := by
  rw [names_publish]
  split
  · exact nodup
  · rename_i unknown
    rw [← List.concat_eq_append]
    exact nodup.concat unknown

theorem nodup_names_upload (nodup : table.names.Nodup) : (table.upload calls).names.Nodup := by
  induction calls generalizing table with
  | nil => exact nodup
  | cons call rest ih => exact ih (nodup_names_publish nodup)

theorem mem_names_upload :
    name ∈ (table.upload calls).names ↔ name ∈ table.names ∨ name ∈ calls.map (·.name) := by
  induction calls generalizing table with
  | nil => simp [upload]
  | cons call rest ih =>
      have uploadEq : table.upload (call :: rest) = (table.publish call).upload rest := rfl
      rw [uploadEq, ih, names_publish, List.map_cons, List.mem_cons]
      split
      · rename_i known
        constructor
        · exact fun found => found.imp_right .inr
        · rintro (found | rfl | later)
          · exact .inl found
          · exact .inl known
          · exact .inr later
      · rw [List.mem_append, List.mem_singleton, or_assoc]

end CallTable

/-! ## Declared modules -/

namespace ModuleDeclaration

/-- The native functions that a declared module publishes: those that point somewhere. -/
def published (declaration : ModuleDeclaration) : List InternalCall :=
  (declaration.calls.filter (!·.entry.isNull)).map fun call =>
    ⟨qualifiedName call.className call.member declaration.name, call.entry⟩

private theorem foldl_addType (types : List TypeDescriptor) (module : TypeModule) :
    types.foldl TypeModule.addType module = { module with types := module.types ++ types } := by
  induction types generalizing module with
  | nil => simp
  | cons type rest ih => simp [ih, TypeModule.addType]

private theorem foldl_addInternalCall (calls : List CallDeclaration) (module : TypeModule) :
    calls.foldl
        (fun module call => module.addInternalCall call.className call.member call.entry) module =
      { module with calls := module.calls ++ (calls.filter (!·.entry.isNull)).map fun call =>
        ⟨qualifiedName call.className call.member module.name, call.entry⟩ } := by
  induction calls generalizing module with
  | nil => simp
  | cons call rest ih =>
      rw [List.foldl_cons, ih, TypeModule.addInternalCall]
      cases nowhere : call.entry.isNull <;> simp [nowhere]

theorem calls_toModule (declaration : ModuleDeclaration) :
    declaration.toModule.calls = declaration.published := by
  simp only [toModule, foldl_addType, foldl_addInternalCall]
  rfl

end ModuleDeclaration

end ObjectBridge
