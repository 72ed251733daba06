import ObjectBridge.Proofs.Value.Coercion
import ObjectBridge.Value.Scalar

/-!
# Reading scalars agrees with coercion

An argument is coerced to the declared kind when it is passed, and once more when the body
reads it.  Reading comes down to coercion: a value that is coerced is read as the payload of
the outcome, and any other is refused with a fault that names both kinds.  The outcome of a
coercion has the declared kind, so a second coercion leaves it as it is, however much the
first one rounded.

Eleven types are read by coercion and addresses in a way of their own.  Both ways are brought
to the same three facts about the payloads of a kind, and all else follows from these.
-/

namespace ObjectBridge

namespace Scalar

/-! ## Payloads -/

/-- A scalar type has the payloads of its kind as members: they are taken out of the values of
that kind and of no others, and reading a value is to coerce it and to take the payload out. -/
structure HoldsPayloads (α : Type) [Scalar α] (payload? : Value → Option α) : Prop where
  extract_eq : ∀ value, extract value = extractCoerced (kind α) payload? value
  payload?_wrap : ∀ member, payload? (wrap member) = some member
  map_wrap_payload? : ∀ value : Value,
    (payload? value).map wrap = if value.kind = kind α then some value else none

/-- How reading a scalar type agrees with coercion to its kind. -/
structure Coherent (α : Type) [Scalar α] : Prop where
  /-- A member that was wrapped is read back as it was. -/
  extract_wrap : ∀ member : α, extract (wrap member) = .ok member
  /-- The values that are read are those whose kind widens to the kind of the type. -/
  exists_extract_iff : ∀ value : Value,
    (∃ member : α, extract value = .ok member) ↔ value.kind.widensTo (kind α) = true
  /-- What is read is the payload of the coerced value. -/
  extract_eq_ok_iff : ∀ (value : Value) (member : α),
    extract value = .ok member ↔ value.coerce (kind α) = some (wrap member)
  /-- The fault names the declared kind and the kind of the value. -/
  extract_eq_error : ∀ value : Value, value.kind.widensTo (kind α) = false →
    (extract value : Except Fault α) = .error (.plain
      ("Type mismatch: expected " ++ (kind α).name ++ ", got " ++ value.kind.name))
  /-- A coerced value is read as the value that it came from. -/
  extract_coerced : ∀ value passed : Value, value.coerce (kind α) = some passed →
    (extract passed : Except Fault α) = extract value

variable {α : Type} [Scalar α] {payload? : Value → Option α}

namespace HoldsPayloads

variable (holds : HoldsPayloads α payload?) {value : Value}

include holds

/-- Every value of the kind wraps a member. -/
theorem exists_wrap (kindEq : value.kind = kind α) :
    ∃ member, payload? value = some member ∧ wrap member = value := by
  have wrapped := holds.map_wrap_payload? value
  rw [if_pos kindEq] at wrapped
  exact Option.map_eq_some_iff.mp wrapped

theorem kind_wrap (member : α) : (wrap member).kind = kind α := by
  have wrapped := holds.map_wrap_payload? (wrap member)
  rw [holds.payload?_wrap, Option.map_some] at wrapped
  split at wrapped
  · assumption
  · contradiction

/-- Either a value is coerced, and the member that the outcome wraps is read, or it is not,
and the fault names both kinds. -/
theorem extract_cases (value : Value) :
    (∃ member : α, value.coerce (kind α) = some (wrap member) ∧ extract value = .ok member) ∨
    (value.coerce (kind α) = none ∧
      (extract value : Except Fault α) = .error (.typeMismatch (kind α) value.kind)) := by
  rw [holds.extract_eq, extractCoerced]
  cases passes : value.coerce (kind α) with
  | none => exact .inr ⟨rfl, rfl⟩
  | some passed =>
      obtain ⟨member, payloadEq, rfl⟩ := holds.exists_wrap (Value.kind_of_coerce passes)
      exact .inl ⟨member, rfl, by rw [Option.bind_some, payloadEq]⟩

theorem extract_wrap (member : α) : extract (wrap member) = .ok member := by
  have coerceEq : (wrap member).coerce (kind α) = some (wrap member) :=
    holds.kind_wrap member ▸ (wrap member).coerce_self
  rw [holds.extract_eq, extractCoerced, coerceEq, Option.bind_some, holds.payload?_wrap]

theorem extract_eq_ok_iff {member : α} :
    extract value = .ok member ↔ value.coerce (kind α) = some (wrap member) := by
  rcases holds.extract_cases value with ⟨read, coerceEq, extractEq⟩ | ⟨coerceEq, extractEq⟩
  · rw [coerceEq, extractEq, Except.ok.injEq, Option.some.injEq]
    constructor
    · rintro rfl
      rfl
    · intro same
      have payloadEq := congrArg payload? same
      rw [holds.payload?_wrap, holds.payload?_wrap] at payloadEq
      exact Option.some.inj payloadEq
  · simp [coerceEq, extractEq]

theorem coherent : Coherent α where
  extract_wrap := holds.extract_wrap
  exists_extract_iff value := by
    rw [← Value.isSome_coerce]
    rcases holds.extract_cases value with ⟨member, coerceEq, extractEq⟩ | ⟨coerceEq, extractEq⟩
    · simp [coerceEq, extractEq]
    · simp [coerceEq, extractEq]
  extract_eq_ok_iff _ _ := holds.extract_eq_ok_iff
  extract_eq_error value narrows := by
    rw [← Value.coerce_eq_none_iff] at narrows
    rcases holds.extract_cases value with ⟨_, coerceEq, _⟩ | ⟨_, extractEq⟩
    · rw [narrows] at coerceEq
      contradiction
    · exact extractEq
  extract_coerced value passed passes := by
    obtain ⟨member, _, rfl⟩ := holds.exists_wrap (Value.kind_of_coerce passes)
    rw [holds.extract_wrap, holds.extract_eq_ok_iff.mpr passes]

end HoldsPayloads

/-! ## The twelve types -/

/-- Addresses are read without coercion, but only pointers may be passed for them, and a
pointer is coerced to itself. -/
theorem holdsPayloads_address :
    HoldsPayloads Address fun | .pointer address => some address | _ => none where
  extract_eq value := by cases value <;> rfl
  payload?_wrap _ := rfl
  map_wrap_payload? value := by cases value <;> rfl

/-- Each of the twelve scalar types is read as coercion to its kind has it: a wrapped member
comes back with all its bits, a value is read exactly if its kind widens to that of the type,
then as the payload of the coerced value and otherwise with a fault that names both kinds, and
to coerce a value before it is read changes nothing. -/
theorem reading_agrees_with_coercion :
    Coherent Int8 ∧ Coherent UInt8 ∧ Coherent Int16 ∧ Coherent UInt16 ∧ Coherent Int32 ∧
    Coherent UInt32 ∧ Coherent Int64 ∧ Coherent UInt64 ∧ Coherent Binary32 ∧
    Coherent Binary64 ∧ Coherent Bool ∧ Coherent Address := by
  refine ⟨?_, ?_, ?_, ?_, ?_, ?_, ?_, ?_, ?_, ?_, ?_, holdsPayloads_address.coherent⟩
  -- All others are read by coercion as it stands.
  all_goals
    refine HoldsPayloads.coherent ⟨fun _ => rfl, fun _ => rfl, fun value => ?_⟩
    cases value <;> rfl

/-- An integer that is rounded on its way to single precision is read as the same single
before and after, and a truth value is not read as a number. -/
theorem reading_agrees_with_coercion_rounded :
    (∃ passed, (Value.long 1152921573326323713).coerce .float = some passed ∧
      (extract passed : Except Fault Binary32) = extract (Value.long 1152921573326323713) ∧
      (extract (Value.long 1152921573326323713) : Except Fault Binary32) = .ok ⟨0x5D800000⟩) ∧
    Kind.bool.widensTo .int = false ∧
    (extract (Value.bool true) : Except Fault Int32) =
      .error (.plain "Type mismatch: expected int, got bool") := by
  obtain ⟨_, _, _, _, ints, _, _, _, singles, _, _, _⟩ := reading_agrees_with_coercion
  have passes : (Value.long 1152921573326323713).coerce .float = some (.float ⟨0x5D800000⟩) := by
    decide +kernel
  have narrows : Kind.bool.widensTo .int = false := rfl
  constructor
  · exact ⟨_, passes, singles.extract_coerced _ _ passes,
      (singles.extract_eq_ok_iff _ _).mpr passes⟩
  · exact ⟨narrows, ints.extract_eq_error (.bool true) narrows⟩

end Scalar

end ObjectBridge
