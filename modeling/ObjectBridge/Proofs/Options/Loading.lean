import Mathlib.Algebra.Group.Nat.Defs
import ObjectBridge.Bridge.Exports
import ObjectBridge.Proofs.Options.Writing
import ObjectBridge.Proofs.Text.Copies

/-!
# Loaded options

Options that are loaded are the defaults in which the keys of a document, and no others, have
the settings that the document gives them, and they are in range.  What a document leads to is
said here by its entries as a set, so their order does not matter; every way to load options
leads to what the text of the file does, or to the defaults.

All of this holds whatever reads documents, as long as no document that it reads has a key twice.
-/

namespace ObjectBridge.Document

/-- No document that is read has a key twice. -/
def Reader.DistinctKeys (read? : Reader) : Prop :=
  ∀ document entries, read? document = some entries → (entries.map Prod.fst).Nodup

theorem distinctKeys_read? : Reader.DistinctKeys read? :=
  fun document _ read => (exists_read?_iff.mp ⟨document, read⟩).distinct

end ObjectBridge.Document

namespace ObjectBridge.BridgeOptions

open Document (Setting)

variable {options changed base : BridgeOptions} {entries : List (String × Setting)}
  {key : String} {setting : Setting}

/-! ## Options as settings -/

/-- The options by their keys. -/
def toEntries (options : BridgeOptions) : List (String × Setting) :=
  [ ("gc_threshold", .number options.gcThreshold),
    ("handle_capacity", .number options.handleCapacity),
    ("log_filter", .text options.logFilter),
    ("diagnostics", .truth options.diagnostics) ]

/-- The setting of the option that a key names. -/
def setting? (options : BridgeOptions) (key : String) : Option Setting :=
  options.toEntries.lookup key

/-- Options are known by their settings. -/
theorem eq_of_setting? {first second : BridgeOptions}
    (same : ∀ key, first.setting? key = second.setting? key) : first = second := by
  have thresholds := same "gc_threshold"
  have capacities := same "handle_capacity"
  have filters := same "log_filter"
  have flags := same "diagnostics"
  rcases first with ⟨threshold, capacity, filter, flag⟩
  rcases second with ⟨otherThreshold, otherCapacity, otherFilter, otherFlag⟩
  simp only [setting?, toEntries, List.lookup_cons, beq_self_eq_true, String.reduceBEq,
    Option.some.injEq, Document.Setting.number.injEq, Int.ofNat_inj,
    Document.Setting.text.injEq, Document.Setting.truth.injEq]
    at thresholds capacities filters flags
  rw [thresholds, capacities, filters, flags]

/-- A key that names an option, with a setting of its type. -/
inductive IsOption : String × Setting → Prop
  | gcThreshold (value : Nat) : IsOption ("gc_threshold", .number value)
  | handleCapacity (value : Nat) : IsOption ("handle_capacity", .number value)
  | logFilter (value : String) : IsOption ("log_filter", .text value)
  | diagnostics (value : Bool) : IsOption ("diagnostics", .truth value)

theorem exists_set? (options : BridgeOptions) (isOption : IsOption (key, setting)) :
    ∃ changed, options.set? key setting = some changed := by
  cases isOption with
  | gcThreshold value => exact ⟨_, rfl⟩
  | handleCapacity value => exact ⟨_, rfl⟩
  | logFilter value => exact ⟨_, rfl⟩
  | diagnostics value => exact ⟨_, rfl⟩

/-- Only an option can be set, and only the one that the key names changes. -/
theorem of_set? (set : options.set? key setting = some changed) :
    IsOption (key, setting) ∧ changed.setting? key = some setting ∧
      ∀ other, other ≠ key → changed.setting? other = options.setting? other := by
  rw [set?.eq_def] at set
  split at set
  · cases set
    refine ⟨.gcThreshold _, rfl, fun other different => ?_⟩
    simp only [setting?, toEntries, List.lookup_cons, beq_false_of_ne different]
  · cases set
    refine ⟨.handleCapacity _, rfl, fun other different => ?_⟩
    simp only [setting?, toEntries, List.lookup_cons, beq_false_of_ne different]
  · cases set
    refine ⟨.logFilter _, rfl, fun other different => ?_⟩
    simp only [setting?, toEntries, List.lookup_cons, beq_false_of_ne different]
  · cases set
    refine ⟨.diagnostics _, rfl, fun other different => ?_⟩
    simp only [setting?, toEntries, List.lookup_cons, beq_false_of_ne different]
  · contradiction

/-! ## Overrides -/

/-- The options are those of a base, except that the keys of entries have the settings that
the entries give them. -/
structure Overrides (changed base : BridgeOptions) (entries : List (String × Setting)) :
    Prop where
  given : ∀ key setting, (key, setting) ∈ entries → changed.setting? key = some setting
  kept : ∀ key, key ∉ entries.map Prod.fst → changed.setting? key = base.setting? key

theorem Overrides.unique {first second : BridgeOptions}
    (firstOverrides : first.Overrides base entries)
    (secondOverrides : second.Overrides base entries) : first = second := by
  apply eq_of_setting?
  intro key
  by_cases given : key ∈ entries.map Prod.fst
  · obtain ⟨⟨_, setting⟩, entryMem, rfl⟩ := List.mem_map.mp given
    rw [firstOverrides.given _ setting entryMem, secondOverrides.given _ setting entryMem]
  · rw [firstOverrides.kept key given, secondOverrides.kept key given]

theorem Overrides.perm {others : List (String × Setting)}
    (overrides : changed.Overrides base entries) (same : entries.Perm others) :
    changed.Overrides base others where
  given key setting given := overrides.given key setting (same.mem_iff.mpr given)
  kept key absent := overrides.kept key fun given => absent ((same.map _).mem_iff.mp given)

theorem exists_setAll? (options : BridgeOptions)
    (areOptions : ∀ entry ∈ entries, IsOption entry) :
    ∃ changed, options.setAll? entries = some changed := by
  induction entries generalizing options with
  | nil => exact ⟨options, rfl⟩
  | cons entry others ih =>
      obtain ⟨middle, set⟩ := exists_set? options (areOptions entry List.mem_cons_self)
      obtain ⟨changed, setOthers⟩ := ih middle
        fun other found => areOptions other (List.mem_cons_of_mem _ found)
      exact ⟨changed, by rw [setAll?, set, Option.bind_some, setOthers]⟩

/-- Entries that are set one after another override the options, since no later entry has the
key of an earlier one. -/
theorem overrides_of_setAll? (distinct : (entries.map Prod.fst).Nodup)
    (set : options.setAll? entries = some changed) :
    (∀ entry ∈ entries, IsOption entry) ∧ changed.Overrides options entries := by
  induction entries generalizing options with
  | nil =>
      cases set
      exact ⟨by simp, by simp, fun _ _ => rfl⟩
  | cons entry others ih =>
      obtain ⟨key, setting⟩ := entry
      obtain ⟨fresh, distinctOthers⟩ := List.nodup_cons.mp distinct
      obtain ⟨middle, setFirst, setOthers⟩ := Option.bind_eq_some_iff.mp set
      obtain ⟨isOption, given, kept⟩ := of_set? setFirst
      obtain ⟨areOptions, overrides⟩ := ih distinctOthers setOthers
      refine ⟨List.forall_mem_cons.mpr ⟨isOption, areOptions⟩, ?_, ?_⟩
      · intro other otherSetting found
        -- The rest keeps the first setting, since it has no entry with that key.
        rcases List.mem_cons.mp found with same | later
        · cases same
          rw [overrides.kept key fresh, given]
        · exact overrides.given other otherSetting later
      · intro other absent
        rw [List.map_cons, List.mem_cons, not_or] at absent
        rw [overrides.kept other absent.2, kept other absent.1]

theorem setAll?_eq_some_iff (distinct : (entries.map Prod.fst).Nodup) :
    options.setAll? entries = some changed ↔
      (∀ entry ∈ entries, IsOption entry) ∧ changed.Overrides options entries := by
  constructor
  · exact overrides_of_setAll? distinct
  · rintro ⟨areOptions, overrides⟩
    obtain ⟨reached, set⟩ := exists_setAll? options areOptions
    rw [set, (overrides_of_setAll? distinct set).2.unique overrides]

/-! ## Ranges -/

/-- Options in range: a capacity that the table makes room for, and a filter with something
to see. -/
structure InRange (options : BridgeOptions) : Prop where
  capacity_le : options.handleCapacity ≤ 2 ^ 20
  exists_visible : ∃ character ∈ options.logFilter.toList, Text.isBlankChar character = false

/-- Options out of range, and what is said of them.  Nothing is said of the filter when the
capacity is too large. -/
inductive OutOfRange (options : BridgeOptions) : String → Prop
  | capacity (large : 2 ^ 20 < options.handleCapacity) :
      OutOfRange options
        s!"handle_capacity {options.handleCapacity} exceeds the maximum of {maxHandleCapacity}"
  | filter (small : options.handleCapacity ≤ 2 ^ 20)
      (blank : ∀ character ∈ options.logFilter.toList, Text.isBlankChar character = true) :
      OutOfRange options "log_filter cannot be empty"

theorem inRange_or_outOfRange (options : BridgeOptions) :
    options.InRange ∨ ∃ reason, options.OutOfRange reason := by
  rcases Nat.lt_or_ge (2 ^ 20) options.handleCapacity with large | small
  · exact .inr ⟨_, .capacity large⟩
  · by_cases blank : ∀ character ∈ options.logFilter.toList, Text.isBlankChar character = true
    · exact .inr ⟨_, .filter small blank⟩
    · push Not at blank
      obtain ⟨character, found, visible⟩ := blank
      exact .inl ⟨small, character, found, Bool.eq_false_iff.mpr visible⟩

theorem InRange.validate_eq (inRange : options.InRange) : options.validate = .ok options := by
  have notLarge : ¬ maxHandleCapacity < options.handleCapacity :=
    Nat.not_lt_of_le inRange.capacity_le
  obtain ⟨character, found, visible⟩ := inRange.exists_visible
  have notBlank : ¬ Text.isBlank options.logFilter = true := fun blank =>
    Bool.eq_false_iff.mp visible (List.all_eq_true.mp blank character found)
  rw [validate, if_neg notLarge, if_neg notBlank]

theorem OutOfRange.validate_eq {reason : String} (outOfRange : options.OutOfRange reason) :
    options.validate = .error (.outOfRange reason) := by
  cases outOfRange with
  | capacity large => exact if_pos large
  | filter small blank =>
      have notLarge : ¬ maxHandleCapacity < options.handleCapacity := Nat.not_lt_of_le small
      have isBlank : Text.isBlank options.logFilter = true := List.all_eq_true.mpr blank
      rw [validate, if_neg notLarge, if_pos isBlank]

/-! ## Documents -/

/-- What the entries of a document lead to.  There are none if no document of the language with
entries alone can be read. -/
inductive Loads : Option (List (String × Setting)) → Except ConfigError BridgeOptions → Prop
  | accepted {entries : List (String × Setting)} {options : BridgeOptions}
      (areOptions : ∀ entry ∈ entries, IsOption entry)
      (overrides : options.Overrides defaults entries) (inRange : options.InRange) :
      Loads (some entries) (.ok options)
  | outOfRange {entries : List (String × Setting)} {options : BridgeOptions} {reason : String}
      (areOptions : ∀ entry ∈ entries, IsOption entry)
      (overrides : options.Overrides defaults entries) (outOfRange : options.OutOfRange reason) :
      Loads (some entries) (.error (.outOfRange reason))
  | untyped {entries : List (String × Setting)} {entry : String × Setting}
      (found : entry ∈ entries) (notOption : ¬ IsOption entry) :
      Loads (some entries) (.error .malformed)
  | unread : Loads none (.error .malformed)

variable {read? : Document.Reader} {document : String}
  {found : Option (List (String × Setting))} {outcome : Except ConfigError BridgeOptions}

/-- The order of entries does not matter. -/
theorem Loads.perm {others : List (String × Setting)} (loads : Loads (some entries) outcome)
    (same : entries.Perm others) : Loads (some others) outcome := by
  cases loads with
  | accepted areOptions overrides inRange =>
      exact .accepted (fun entry found => areOptions entry (same.mem_iff.mpr found))
        (overrides.perm same) inRange
  | outOfRange areOptions overrides outOfRange =>
      exact .outOfRange (fun entry found => areOptions entry (same.mem_iff.mpr found))
        (overrides.perm same) outOfRange
  | untyped found notOption => exact .untyped (same.mem_iff.mp found) notOption

/-- Options that are set are loaded if they are in range. -/
theorem ofTextWith_eq_validate (distinct : read?.DistinctKeys)
    (read : read? document = some entries) (areOptions : ∀ entry ∈ entries, IsOption entry)
    (overrides : options.Overrides defaults entries) :
    ofTextWith read? document = options.validate := by
  have set : defaults.setAll? entries = some options :=
    (setAll?_eq_some_iff (distinct document entries read)).mpr ⟨areOptions, overrides⟩
  rw [ofTextWith, read, Option.bind_some, set]

theorem Loads.ofTextWith_eq (distinct : read?.DistinctKeys) (read : read? document = found)
    (loads : Loads found outcome) : ofTextWith read? document = outcome := by
  cases loads with
  | accepted areOptions overrides inRange =>
      rw [ofTextWith_eq_validate distinct read areOptions overrides, inRange.validate_eq]
  | outOfRange areOptions overrides outOfRange =>
      rw [ofTextWith_eq_validate distinct read areOptions overrides, outOfRange.validate_eq]
  | @untyped entries entry found notOption =>
      have notSet : defaults.setAll? entries = none := by
        rw [Option.eq_none_iff_forall_not_mem]
        intro options set
        have nodup := distinct document entries read
        exact notOption ((overrides_of_setAll? nodup set).1 entry found)
      rw [ofTextWith, read, Option.bind_some, notSet]
  | unread => rw [ofTextWith, read, Option.bind_none]

theorem exists_loads (distinct : read?.DistinctKeys) (read : read? document = found) :
    ∃ outcome, Loads found outcome := by
  cases found with
  | none => exact ⟨_, .unread⟩
  | some entries =>
      by_cases areOptions : ∀ entry ∈ entries, IsOption entry
      · obtain ⟨options, set⟩ := exists_setAll? defaults areOptions
        have overrides := (overrides_of_setAll? (distinct document entries read) set).2
        rcases inRange_or_outOfRange options with inRange | ⟨reason, outOfRange⟩
        · exact ⟨_, .accepted areOptions overrides inRange⟩
        · exact ⟨_, .outOfRange areOptions overrides outOfRange⟩
      · push Not at areOptions
        obtain ⟨entry, entryMem, notOption⟩ := areOptions
        exact ⟨_, .untyped entryMem notOption⟩

/-- A document leads to what its entries lead to, and to nothing else. -/
theorem ofTextWith_eq_iff (distinct : read?.DistinctKeys) :
    ofTextWith read? document = outcome ↔ Loads (read? document) outcome := by
  constructor
  · intro loaded
    obtain ⟨reached, loads⟩ := exists_loads distinct rfl
    rw [← loaded, loads.ofTextWith_eq distinct rfl]
    exact loads
  · exact Loads.ofTextWith_eq distinct rfl

theorem ofTextWith_eq_of_perm (distinct : read?.DistinctKeys) {other : String}
    {others : List (String × Setting)} (read : read? document = some entries)
    (readOther : read? other = some others) (same : entries.Perm others) :
    ofTextWith read? document = ofTextWith read? other := by
  rw [ofTextWith_eq_iff distinct, read]
  exact Loads.perm (readOther ▸ (ofTextWith_eq_iff distinct).mp rfl) same.symm

/-! ## Sources -/

/-- What is loaded from where the environment points.  A file counts by its text, if it has
one. -/
inductive LoadsFrom (read? : Document.Reader) :
    OptionSource → Except ConfigError BridgeOptions → Prop
  | unset : LoadsFrom read? .unset (.ok defaults)
  | absent : LoadsFrom read? .absent (.error .unreadable)
  | text (document : String) :
      LoadsFrom read? (.file (Utf8.encode document.toList)) (ofTextWith read? document)
  | noText {octets : List UInt8}
      (different : ∀ document : String, octets ≠ Utf8.encode document.toList) :
      LoadsFrom read? (.file octets) (.error .unreadable)

variable {source : OptionSource}

theorem ofFileWith_encode (document : String) :
    ofFileWith read? (some (Utf8.encode document.toList)) = ofTextWith read? document := by
  rw [ofFileWith, Utf8.decode_encode]
  exact congrArg (ofTextWith read?) String.ofList_toList

theorem ofFileWith_eq_unreadable {octets : List UInt8}
    (different : ∀ document : String, octets ≠ Utf8.encode document.toList) :
    ofFileWith read? (some octets) = .error .unreadable := by
  cases decoded : Utf8.decode octets with
  | ok characters =>
      have same := Utf8.decode_eq_ok_iff.mp decoded
      rw [← String.toList_ofList (l := characters)] at same
      exact absurd same (different _)
  | error _ => rw [ofFileWith, decoded]

theorem exists_loadsFrom (read? : Document.Reader) (source : OptionSource) :
    ∃ outcome, LoadsFrom read? source outcome := by
  cases source with
  | unset => exact ⟨_, .unset⟩
  | absent => exact ⟨_, .absent⟩
  | file octets =>
      by_cases different : ∀ document : String, octets ≠ Utf8.encode document.toList
      · exact ⟨_, .noText different⟩
      · push Not at different
        obtain ⟨document, rfl⟩ := different
        exact ⟨_, .text document⟩

theorem LoadsFrom.ofSourceWith_eq (loads : LoadsFrom read? source outcome) :
    ofSourceWith read? source = outcome := by
  cases loads with
  | unset => rfl
  | absent => rfl
  | text document => exact ofFileWith_encode document
  | noText different => exact ofFileWith_eq_unreadable different

theorem ofSourceWith_eq_iff :
    ofSourceWith read? source = outcome ↔ LoadsFrom read? source outcome := by
  constructor
  · rintro rfl
    obtain ⟨reached, loads⟩ := exists_loadsFrom read? source
    rwa [loads.ofSourceWith_eq]
  · exact LoadsFrom.ofSourceWith_eq

theorem defaults_inRange : defaults.InRange where
  capacity_le := by decide
  exists_visible := ⟨'w', by decide, by decide⟩

theorem inRange_of_ofTextWith (distinct : read?.DistinctKeys)
    (loaded : ofTextWith read? document = .ok options) : options.InRange := by
  have loads := (ofTextWith_eq_iff distinct).mp loaded
  generalize read? document = found at loads
  cases loads
  assumption

theorem inRange_of_ofSourceWith (distinct : read?.DistinctKeys)
    (loaded : ofSourceWith read? source = .ok options) : options.InRange := by
  generalize outcomeEq : Except.ok options = outcome at loaded
  cases ofSourceWith_eq_iff.mp loaded with
  | unset =>
      cases outcomeEq
      exact defaults_inRange
  | absent => contradiction
  | text document => exact inRange_of_ofTextWith distinct outcomeEq.symm
  | noText different => contradiction

/-- The bridge of a process has the options that the environment points to, or the defaults. -/
theorem options_ofEnvironmentWith (read? : Document.Reader) (source : OptionSource) :
    (Bridge.ofEnvironmentWith read? source).options =
      (ofSourceWith read? source).toOption.getD defaults := by
  rw [Bridge.ofEnvironmentWith]
  split
  · rename_i loaded
    rw [loaded]
    rfl
  · rename_i refused
    rw [refused]
    rfl

theorem inRange_ofEnvironmentWith (distinct : read?.DistinctKeys) (source : OptionSource) :
    (Bridge.ofEnvironmentWith read? source).options.InRange := by
  rw [options_ofEnvironmentWith]
  cases loaded : ofSourceWith read? source with
  | ok options => exact inRange_of_ofSourceWith distinct loaded
  | error cause => exact defaults_inRange

/-! ## Loading -/

/-- What is loaded depends on what is read alone.  A text loads the defaults with the settings of
its entries in place, if these are options and the result is in range, and their order does not
matter.  A file loads what its text does, and the bridge of a process is created with options in
range from wherever the environment points. -/
structure LoadsAsRead (read? : Document.Reader) : Prop where
  text : ∀ document outcome,
    ofTextWith read? document = outcome ↔ Loads (read? document) outcome
  order : ∀ document other entries others, read? document = some entries →
    read? other = some others → entries.Perm others →
    ofTextWith read? document = ofTextWith read? other
  source : ∀ source outcome,
    ofSourceWith read? source = outcome ↔ LoadsFrom read? source outcome
  file : ofFileWith read? none = ofSourceWith read? .absent ∧
    ∀ octets, ofFileWith read? (some octets) = ofSourceWith read? (.file octets)
  bridge : ∀ source,
    (Bridge.ofEnvironmentWith read? source).options =
      (ofSourceWith read? source).toOption.getD defaults ∧
    (Bridge.ofEnvironmentWith read? source).options.validate =
      .ok (Bridge.ofEnvironmentWith read? source).options

theorem loadsAsRead (distinct : read?.DistinctKeys) : LoadsAsRead read? where
  text _ _ := ofTextWith_eq_iff distinct
  order _ _ _ _ read readOther same := ofTextWith_eq_of_perm distinct read readOther same
  source _ _ := ofSourceWith_eq_iff
  file := ⟨rfl, fun _ => rfl⟩
  bridge source :=
    ⟨options_ofEnvironmentWith read? source,
      (inRange_ofEnvironmentWith distinct source).validate_eq⟩

/-- Whatever reads documents without a key twice, options are loaded as it reads them.  So it is
for option documents: any entries with keys that differ can be those of a text, a text loads the
defaults with the settings of its entries in place, if these are options and the result is in
range, whatever their order, a file loads what its text does, and the bridge of a process is
created with options in range from wherever the environment points. -/
theorem loading_overrides_defaults :
    (∀ read? : Document.Reader, read?.DistinctKeys → LoadsAsRead read?) ∧
    (∀ document outcome, ofText document = outcome ↔ Loads (Document.read? document) outcome) ∧
    (∀ entries, (∃ document, Document.read? document = some entries) ↔
      Document.Tabular entries) ∧
    (∀ document other entries others, Document.read? document = some entries →
      Document.read? other = some others → entries.Perm others →
      ofText document = ofText other) ∧
    (∀ source outcome,
      ofSource source = outcome ↔ LoadsFrom Document.read? source outcome) ∧
    (ofFile none = ofSource .absent ∧ ∀ octets, ofFile (some octets) = ofSource (.file octets)) ∧
    ∀ source,
      (Bridge.ofEnvironment source).options = (ofSource source).toOption.getD defaults ∧
      (Bridge.ofEnvironment source).options.validate =
        .ok (Bridge.ofEnvironment source).options := by
  have loads : LoadsAsRead Document.read? := loadsAsRead Document.distinctKeys_read?
  exact ⟨fun _ => loadsAsRead, loads.text, fun _ => Document.exists_read?_iff, loads.order,
    loads.source, loads.file, loads.bridge⟩

/-- Two keys in either order, and a file where both the capacity and the filter are out of
range. -/
theorem loading_overrides_defaults_two_keys :
    let first := "handle_capacity = 128\nlog_filter = 'info'"
    let second := "log_filter = \"info\" # shown\nhandle_capacity = 0x80\n"
    let third := "log_filter = ' '\nhandle_capacity = 2_000_000"
    let loaded : BridgeOptions := ⟨1024, 128, "info", true⟩
    LoadsAsRead Document.read? ∧
      ofText first = .ok loaded ∧ ofText first = ofText second ∧
      Loads (Document.read? first) (.ok loaded) ∧
      LoadsFrom Document.read? (.file (Utf8.encode third.toList)) (.error (.outOfRange
        "handle_capacity 2000000 exceeds the maximum of 1048576")) ∧
      (Bridge.ofEnvironment (.file (Utf8.encode third.toList))).options = defaults := by
  intro first second third loaded
  obtain ⟨readers, texts, _, orders, sources, _, bridges⟩ := loading_overrides_defaults
  have loadsFirst : ofText first = .ok loaded := by decide +kernel
  have refused : ofSource (.file (Utf8.encode third.toList)) = .error (.outOfRange
      "handle_capacity 2000000 exceeds the maximum of 1048576") := by decide +kernel
  refine ⟨readers _ Document.distinctKeys_read?, loadsFirst, ?_,
    (texts first _).mp loadsFirst, (sources _ _).mp refused, ?_⟩
  · exact orders first second
      [("handle_capacity", .number 128), ("log_filter", .text "info")]
      [("log_filter", .text "info"), ("handle_capacity", .number 128)]
      (by decide +kernel) (by decide +kernel) (List.Perm.swap _ _ _)
  · rw [(bridges _).1, refused]
    rfl

end ObjectBridge.BridgeOptions
