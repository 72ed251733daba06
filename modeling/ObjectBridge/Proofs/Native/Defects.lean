import ObjectBridge.Native.Request
import ObjectBridge.Proofs.Native.Decoding

/-!
# Defects of native input

Native input may have several defects at once, and whoever reads it reports one.  A
defect is given here by the errors that report it, and the order in which defects are
looked for is a list: what is reported is the first defect of the list that the input
has.  Reading in stages looks for the defects of the stages one after the other, so the
list for a whole reading is put together from those for its parts.
-/

namespace ObjectBridge

/-! ## The first of several defects -/

/-- The error reports the first defect of a list that there is. -/
inductive FirstOf {ε : Type} : List (ε → Prop) → ε → Prop
  | here {defect : ε → Prop} {others : List (ε → Prop)} {error : ε} :
      defect error → FirstOf (defect :: others) error
  | later {defect : ε → Prop} {others : List (ε → Prop)} {error : ε} :
      (∀ other, ¬defect other) → FirstOf others error → FirstOf (defect :: others) error

section FirstOf

variable {ε α β : Type} {defect : ε → Prop} {defects others : List (ε → Prop)} {error : ε}
  {result : Except ε α} {next : α → Except ε β}

@[simp]
theorem not_firstOf_nil : ¬FirstOf [] error := by
  intro first
  cases first

theorem firstOf_cons_iff :
    FirstOf (defect :: others) error ↔
      defect error ∨ (∀ other, ¬defect other) ∧ FirstOf others error := by
  constructor
  · intro first
    cases first with
    | here applies => exact .inl applies
    | later absent first => exact .inr ⟨absent, first⟩
  · rintro (applies | ⟨absent, first⟩)
    · exact .here applies
    · exact .later absent first

@[simp]
theorem firstOf_singleton_iff : FirstOf [defect] error ↔ defect error := by
  simp [firstOf_cons_iff]

/-- The defects of a second list are reported where there are none of the first. -/
theorem firstOf_append_iff :
    FirstOf (defects ++ others) error ↔
      FirstOf defects error ∨ (∀ other, ¬FirstOf defects other) ∧ FirstOf others error := by
  induction defects with
  | nil => simp
  | cons defect defects ih =>
      rw [List.cons_append, firstOf_cons_iff, ih, firstOf_cons_iff]
      simp only [firstOf_cons_iff, not_or, not_and, forall_and]
      constructor
      · rintro (applies | ⟨absent, first | ⟨none, first⟩⟩)
        · exact .inl (.inl applies)
        · exact .inl (.inr ⟨absent, first⟩)
        · exact .inr ⟨⟨absent, fun other _ => none other⟩, first⟩
      · rintro ((applies | ⟨absent, first⟩) | ⟨⟨absent, none⟩, first⟩)
        · exact .inl applies
        · exact .inr ⟨absent, .inl first⟩
        · exact .inr ⟨absent, .inr ⟨fun other => none other absent, first⟩⟩

/-- Something is reported unless there is no defect at all. -/
theorem forall_not_firstOf_iff :
    (∀ error, ¬FirstOf defects error) ↔ ∀ defect ∈ defects, ∀ error, ¬defect error := by
  induction defects with
  | nil => simp
  | cons defect defects ih =>
      simp only [firstOf_cons_iff, not_or, not_and, forall_and, List.forall_mem_cons, ← ih]
      exact and_congr_right fun absent => ⟨fun none other => none other absent,
        fun none other _ => none other⟩

/-- The defect that is reported has a position, and none before it is there. -/
theorem firstOf_iff_exists :
    FirstOf defects error ↔
      ∃ (position : Nat) (defect : ε → Prop), defects[position]? = some defect ∧ defect error ∧
        ∀ earlier < position, ∀ other : ε → Prop, defects[earlier]? = some other →
          ∀ cause, ¬other cause := by
  induction defects with
  | nil => simp
  | cons defect defects ih =>
      rw [firstOf_cons_iff, ih]
      constructor
      · rintro (applies | ⟨absent, position, found, foundEq, applies, none⟩)
        · exact ⟨0, defect, rfl, applies, fun earlier before => absurd before (Nat.not_lt_zero _)⟩
        · refine ⟨position + 1, found, foundEq, applies, fun earlier before other otherEq => ?_⟩
          cases earlier with
          | zero =>
              cases otherEq
              exact absent
          | succ earlier => exact none earlier (Nat.lt_of_succ_lt_succ before) other otherEq
      · rintro ⟨position, found, foundEq, applies, none⟩
        cases position with
        | zero =>
            cases foundEq
            exact .inl applies
        | succ position =>
            exact .inr ⟨none 0 (Nat.succ_pos position) defect rfl, position, found, foundEq,
              applies, fun earlier before => none (earlier + 1) (Nat.succ_lt_succ before)⟩

/-- A computation fails exactly with the first of some defects. -/
def Detects (defects : List (ε → Prop)) (result : Except ε α) : Prop :=
  ∀ error, result = .error error ↔ FirstOf defects error

theorem detects_singleton (failsIff : ∀ error, result = .error error ↔ defect error) :
    Detects [defect] result := by
  intro error
  rw [failsIff, firstOf_singleton_iff]

/-- What succeeds detects nothing. -/
theorem detects_ok {value : α} : Detects [] (Except.ok value : Except ε α) := by
  intro error
  simp

theorem Detects.exists_ok_iff (detects : Detects defects result) :
    (∃ value, result = .ok value) ↔ ∀ error, ¬FirstOf defects error := by
  cases result with
  | error cause =>
      have first := (detects cause).mp rfl
      simpa using ⟨cause, first⟩
  | ok value =>
      have none : ∀ error, ¬FirstOf defects error := by
        intro error first
        cases (detects error).mpr first
      simpa using none

/-- A defect that is never there may be looked for first. -/
theorem Detects.cons (absent : ∀ error, ¬defect error) (detects : Detects defects result) :
    Detects (defect :: defects) result := by
  intro error
  rw [firstOf_cons_iff, detects error]
  exact ⟨fun first => .inr ⟨absent, first⟩, fun either => (either.resolve_left (absent error)).2⟩

/-- Further defects are reported once the computation succeeds. -/
theorem Detects.append_iff (detects : Detects defects result) :
    FirstOf (defects ++ others) error ↔
      result = .error error ∨ (∃ value, result = .ok value) ∧ FirstOf others error := by
  rw [firstOf_append_iff, ← detects.exists_ok_iff, ← detects error]

/-- Two stages detect the defects of the first and then those of the second. -/
theorem Detects.bind (detects : Detects defects result)
    (detectsNext : ∀ value, result = .ok value → Detects others (next value)) :
    Detects (defects ++ others) (result >>= next) := by
  intro error
  rw [detects.append_iff]
  cases result with
  | error cause => simp [Bind.bind, Except.bind]
  | ok value =>
      rw [← detectsNext value rfl error]
      simp [Bind.bind, Except.bind]

theorem Detects.map (detects : Detects defects result) (view : α → β) :
    Detects defects (result.map view) := by
  intro error
  rw [← detects error]
  cases result <;> simp [Except.map]

/-- A defect that is reported as the cause of another error. -/
def within {φ : Type} (wrap : ε → φ) (defect : ε → Prop) (error : φ) : Prop :=
  ∃ cause, defect cause ∧ error = wrap cause

theorem firstOf_map_within_iff {φ : Type} {wrap : ε → φ} {error : φ} :
    FirstOf (defects.map (within wrap)) error ↔ within wrap (FirstOf defects) error := by
  induction defects with
  | nil => simp [within]
  | cons defect defects ih =>
      have absentIff : (∀ other, ¬within wrap defect other) ↔ ∀ cause, ¬defect cause := by
        constructor
        · intro absent cause applies
          exact absent (wrap cause) ⟨cause, applies, rfl⟩
        · rintro absent _ ⟨cause, applies, _⟩
          exact absent cause applies
      rw [List.map_cons, firstOf_cons_iff, ih, absentIff]
      simp only [within, firstOf_cons_iff]
      constructor
      · rintro (⟨cause, applies, rfl⟩ | ⟨absent, cause, first, rfl⟩)
        · exact ⟨cause, .inl applies, rfl⟩
        · exact ⟨cause, .inr ⟨absent, first⟩, rfl⟩
      · rintro ⟨cause, applies | ⟨absent, first⟩, rfl⟩
        · exact .inl ⟨cause, applies, rfl⟩
        · exact .inr ⟨absent, cause, first, rfl⟩

theorem Detects.mapError {φ : Type} (detects : Detects defects result) (wrap : ε → φ) :
    Detects (defects.map (within wrap)) (result.mapError wrap) := by
  intro error
  rw [firstOf_map_within_iff]
  cases result with
  | error cause =>
      simp [Except.mapError, within, ← detects _, eq_comm]
  | ok value =>
      simp [Except.mapError, within, ← detects _]

end FirstOf

/-! ## Text -/

/-- The string has no address. -/
def nullText (string : InteropString) (cause : InteropError) : Prop :=
  string.buffer = none ∧ cause = .nullString

/-- The octets of the string are not UTF-8. -/
def malformedText (string : InteropString) (cause : InteropError) : Prop :=
  ∃ octets refused, string.content? = some octets ∧ Utf8.decode octets = .error refused ∧
    cause = .invalidUtf8 refused.message

/-- What may be wrong with a string. -/
def InteropString.defects (string : InteropString) : List (InteropError → Prop) :=
  [nullText string, malformedText string]

theorem InteropString.detects_text (string : InteropString) :
    Detects string.defects string.text := by
  intro cause
  rw [defects, firstOf_cons_iff, firstOf_singleton_iff, text]
  cases contentEq : string.content? with
  | none =>
      have bufferEq : string.buffer = none := Option.map_eq_none_iff.mp contentEq
      simp [nullText, malformedText, contentEq, bufferEq, eq_comm]
  | some octets =>
      have bufferNe : string.buffer ≠ none := by
        intro bufferEq
        rw [content?, bufferEq] at contentEq
        contradiction
      cases decoded : Utf8.decode octets with
      | error refused =>
          simp [nullText, malformedText, contentEq, bufferNe, decoded, eq_comm]
      | ok characters => simp [nullText, malformedText, contentEq, bufferNe, decoded]

/-! ## Arguments -/

/-- The tag of an argument is unknown, or there is no value at its address. -/
inductive Undecodable (position : Nat) (entry : Int32 × Address) : MarshalError → Prop
  | unknownTag : Kind.ofCode? entry.1 = none →
      Undecodable position entry (.unknownTag (some position) entry.1)
  | nullValue {kind : Kind} : Kind.ofCode? entry.1 = some kind → kind ≠ .pointer →
      entry.2.isNull = true → Undecodable position entry (.nullValue position kind)

theorem detects_decodeEntry (memory : Memory) (position : Nat) (entry : Int32 × Address) :
    Detects [Undecodable position entry] (decodeEntry memory position entry) := by
  refine detects_singleton fun cause => ?_
  rw [decodeEntry]
  cases kindEq : Kind.ofCode? entry.1 with
  | none =>
      constructor
      · intro refused
        cases refused
        exact .unknownTag kindEq
      · intro undecodable
        cases undecodable with
        | unknownTag _ => rfl
        | nullValue found _ _ =>
            rw [kindEq] at found
            contradiction
  | some kind =>
      simp only [decodeValue]
      constructor
      · intro refused
        split at refused
        · contradiction
        · rename_i notPointer
          split at refused
          · rename_i null
            cases refused
            exact .nullValue kindEq notPointer null
          · contradiction
      · intro undecodable
        cases undecodable with
        | unknownTag absent =>
            rw [kindEq] at absent
            contradiction
        | nullValue found notPointer null =>
            rw [kindEq] at found
            cases found
            rw [if_neg notPointer, if_pos null]

/-- Decoding stops at the first argument that cannot be decoded. -/
theorem detects_decodeFrom (memory : Memory) (start : Nat) (entries : List (Int32 × Address)) :
    Detects (entries.mapIdx fun index => Undecodable (start + index))
      (decodeFrom memory start entries) := by
  induction entries generalizing start with
  | nil =>
      intro cause
      simp [decodeFrom]
  | cons entry entries ih =>
      have shifted : (fun index => Undecodable (start + (index + 1))) =
          fun index => Undecodable (start + 1 + index) := by
        funext index
        rw [Nat.add_comm index, Nat.add_assoc]
      rw [List.mapIdx_cons, shifted, decodeFrom]
      exact (detects_decodeEntry memory start entry).bind fun value _ =>
        ((ih (start + 1)).map (value :: ·))

namespace ArgumentBuffers

/-- One of the buffers is a null pointer. -/
def lacksBuffer (buffers : ArgumentBuffers) : Prop :=
  buffers.tags = none ∨ buffers.addresses = none

/-- The count is negative. -/
def negativeCount (buffers : ArgumentBuffers) (cause : MarshalError) : Prop :=
  buffers.count < 0 ∧ cause = .negativeCount buffers.count

/-- There are arguments, and one of the buffers is missing. -/
def missingBuffer (buffers : ArgumentBuffers) (cause : MarshalError) : Prop :=
  0 < buffers.count ∧ buffers.lacksBuffer ∧ cause = .nullBuffers buffers.count

/-- The arguments in the buffers, as far as there are any. -/
def entries (buffers : ArgumentBuffers) : List (Int32 × Address) :=
  ((buffers.tags.getD []).zip (buffers.addresses.getD [])).take buffers.count.toInt.toNat

/-- What may be wrong with an argument list. -/
def defects (buffers : ArgumentBuffers) : List (MarshalError → Prop) :=
  [buffers.negativeCount, buffers.missingBuffer] ++ buffers.entries.mapIdx Undecodable

/-- Taking the arguments out of the buffers looks at the count and the buffers alone. -/
theorem detects_ofBuffers (buffers : ArgumentBuffers) :
    Detects [buffers.negativeCount, buffers.missingBuffer]
      (EncodedArguments.ofBuffers buffers) := by
  intro cause
  rw [firstOf_cons_iff, firstOf_singleton_iff, EncodedArguments.ofBuffers]
  rcases buffers with ⟨tags, addresses, count⟩
  by_cases negative : count < 0
  · simp [negativeCount, negative, eq_comm]
  · have notBelow : ¬count.toInt < 0 := fun below => negative (Int32.lt_iff_toInt_lt.mpr below)
    by_cases zero : count = 0
    · simp [negativeCount, missingBuffer, zero]
    · have positive : 0 < count := by
        have notZero : count.toInt ≠ 0 := fun same => zero (Int32.toInt_inj.mp same)
        rw [Int32.lt_iff_toInt_lt, Int32.toInt_zero]
        omega
      cases tags <;> cases addresses <;>
        simp [negativeCount, missingBuffer, lacksBuffer, negative, zero, positive, eq_comm]

/-- The arguments that are taken out of the buffers are those in them. -/
theorem entries_eq_of_ofBuffers {buffers : ArgumentBuffers} {arguments : EncodedArguments}
    (taken : EncodedArguments.ofBuffers buffers = .ok arguments) :
    arguments.entries = buffers.entries := by
  rcases buffers with ⟨tags, addresses, count⟩
  rw [EncodedArguments.ofBuffers] at taken
  split at taken
  · contradiction
  · split at taken
    · rename_i zero
      cases taken
      have zeroEq : count = 0 := zero
      simp [entries, zeroEq, EncodedArguments.empty]
    · split at taken
      · rename_i someTags someAddresses
        cases taken
        cases someTags
        cases someAddresses
        rfl
      · contradiction

theorem detects_decode (memory : Memory) (buffers : ArgumentBuffers) :
    Detects buffers.defects (buffers.decode memory) := by
  refine buffers.detects_ofBuffers.bind fun arguments taken => ?_
  have detects := detects_decodeFrom memory 0 arguments.entries
  simp only [Nat.zero_add] at detects
  rw [← entries_eq_of_ofBuffers taken]
  exact detects

end ArgumentBuffers

/-! ## Requests -/

namespace CreateInfo

/-- The count is negative, and no buffer is missing. -/
def negativeCount (info : CreateInfo) (cause : MarshalError) : Prop :=
  ¬info.buffers.lacksBuffer ∧ info.buffers.negativeCount cause

/-- What may be wrong with the arguments of a request. -/
def argumentDefects (info : CreateInfo) : List (MarshalError → Prop) :=
  info.negativeCount :: info.buffers.entries.mapIdx Undecodable

/-- What may be wrong with a request. -/
def defects (info : CreateInfo) : List (BridgeError → Prop) :=
  info.typeName.defects.map (within .interop) ++ info.argumentDefects.map (within .marshal)

theorem lacksBuffers_iff {info : CreateInfo} :
    info.lacksBuffers = true ↔ info.buffers.lacksBuffer := by
  rw [lacksBuffers, Bool.or_eq_true, Option.isNone_iff_eq_none, Option.isNone_iff_eq_none,
    ArgumentBuffers.lacksBuffer]

/-- A request without one of the buffers has no arguments. -/
theorem arguments_of_lacksBuffer {memory : Memory} {info : CreateInfo}
    (lacks : info.buffers.lacksBuffer) : info.arguments memory = .ok [] := by
  rw [arguments, if_pos (lacksBuffers_iff.mpr lacks)]

theorem arguments_of_not_lacksBuffer {memory : Memory} {info : CreateInfo}
    (present : ¬info.buffers.lacksBuffer) :
    info.arguments memory = info.buffers.decode memory := by
  rw [arguments, if_neg (mt lacksBuffers_iff.mp present)]

/-- A request without one of the buffers has no arguments, and nothing is wrong with
them. -/
theorem detects_arguments (memory : Memory) (info : CreateInfo) :
    Detects info.argumentDefects (info.arguments memory) := by
  intro cause
  rw [argumentDefects, firstOf_cons_iff]
  by_cases lacks : info.buffers.lacksBuffer
  · have entriesEq : info.buffers.entries = [] := by
      rcases lacks with noTags | noAddresses
      · simp [ArgumentBuffers.entries, noTags]
      · simp [ArgumentBuffers.entries, noAddresses]
    simp [arguments_of_lacksBuffer lacks, negativeCount, lacks, entriesEq]
  · have detects := info.buffers.detects_decode memory cause
    have notMissing : ∀ other, ¬info.buffers.missingBuffer other := by
      rintro other ⟨_, missing, _⟩
      exact lacks missing
    rw [ArgumentBuffers.defects, List.cons_append, List.cons_append, List.nil_append,
      firstOf_cons_iff, firstOf_cons_iff] at detects
    simpa [arguments_of_not_lacksBuffer lacks, negativeCount, lacks, notMissing] using detects

end CreateInfo

namespace CreateRequest

/-- The request is a null pointer. -/
def nullRequest (info : Option CreateInfo) (error : BridgeError) : Prop :=
  info = none ∧ error = .nullRequest

/-- What may be wrong with a request that may be missing. -/
def defects (info : Option CreateInfo) : List (BridgeError → Prop) :=
  nullRequest info :: info.elim [] CreateInfo.defects

theorem detects_read (memory : Memory) (info : Option CreateInfo) :
    Detects (defects info) (read memory info) := by
  cases info with
  | none =>
      refine detects_singleton fun error => ?_
      simp [read, nullRequest, eq_comm]
  | some info =>
      refine .cons (fun error missing => Option.some_ne_none info missing.1) ?_
      have detects := (info.typeName.detects_text.mapError BridgeError.interop).bind
        fun name _ => ((info.detects_arguments memory).mapError BridgeError.marshal).map
          fun arguments => (⟨name, .ofWeak info.weak, arguments⟩ : CreateRequest)
      exact detects

end CreateRequest

end ObjectBridge
