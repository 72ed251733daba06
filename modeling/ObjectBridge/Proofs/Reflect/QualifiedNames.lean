import Mathlib.Data.List.Infix
import ObjectBridge.Reflect.InternalCalls

/-!
# Qualified names

A qualified name is a class, a member and a module with separators between them.  Nothing
marks a separator that is part of one of the three, so there may be several ways to take a
name apart.  `SeparatedOnce` says when there is only one.
-/

namespace ObjectBridge

/-- In the qualified name of a class, a member and a module each separator stands in one place
only where it could separate. -/
structure SeparatedOnce (className member moduleName : String) : Prop where
  plus_notMem_class : '+' ∉ className.toList
  plus_notMem_member : '+' ∉ member.toList
  comma_notIn_member : ¬[',', ' '] <:+: member.toList
  comma_notIn_module : ¬[',', ' '] <:+: moduleName.toList

instance (className member moduleName : String) :
    Decidable (SeparatedOnce className member moduleName) :=
  decidable_of_iff ('+' ∉ className.toList ∧ '+' ∉ member.toList ∧
      ¬[',', ' '] <:+: member.toList ∧ ¬[',', ' '] <:+: moduleName.toList)
    ⟨fun ⟨inClass, inMember, member, module⟩ => ⟨inClass, inMember, member, module⟩,
      fun once => ⟨once.1, once.2, once.3, once.4⟩⟩

theorem toList_qualifiedName (className member moduleName : String) :
    (qualifiedName className member moduleName).toList =
      className.toList ++ '+' :: (member.toList ++ ',' :: ' ' :: moduleName.toList) := by
  simp [qualifiedName, String.toList_append]

/-! ## Taking names apart -/

section Lists

variable {first second before after : List Char} {mark : Char}

/-- A mark that is not in the first of two lists is in the second. -/
private theorem exists_of_append_eq (notMem : mark ∉ first)
    (same : before ++ mark :: after = first ++ second) :
    ∃ between, before = first ++ between ∧ second = between ++ mark :: after := by
  rcases List.append_eq_append_iff.mp same with ⟨rest, rfl, restEq⟩ | ⟨rest, beforeEq, restEq⟩
  · cases rest with
    | nil => exact ⟨[], by simp, restEq.symm⟩
    | cons head tail =>
        cases restEq
        exact absurd (List.mem_append_right _ List.mem_cons_self) notMem
  · exact ⟨rest, beforeEq, restEq⟩

/-- No comma stands halfway in another. -/
private theorem nil_or_comma_of_append_eq
    (same : ',' :: ' ' :: second = before ++ ',' :: ' ' :: after) :
    (before = [] ∧ after = second) ∨
      ∃ between, before = ',' :: ' ' :: between ∧ second = between ++ ',' :: ' ' :: after := by
  rcases before with _ | ⟨mark, _ | ⟨space, between⟩⟩
  · simp only [List.nil_append, List.cons.injEq, true_and] at same
    exact .inl ⟨rfl, same.symm⟩
  · simp at same
  · simp only [List.cons_append, List.cons.injEq] at same
    obtain ⟨rfl, rfl, secondEq⟩ := same
    exact .inr ⟨between, rfl, secondEq⟩

/-- Lists with a comma between them are taken apart in one way, unless one of them contains
another comma. -/
private theorem eq_of_comma_append_eq (notInFirst : ¬[',', ' '] <:+: first)
    (notInSecond : ¬[',', ' '] <:+: second)
    (same : before ++ ',' :: ' ' :: after = first ++ ',' :: ' ' :: second) :
    before = first ∧ after = second := by
  rcases List.append_eq_append_iff.mp same with ⟨rest, firstEq, restEq⟩ | ⟨rest, beforeEq, restEq⟩
  · rcases nil_or_comma_of_append_eq restEq with ⟨rfl, secondEq⟩ | ⟨between, rfl, _⟩
    · exact ⟨by rw [firstEq, List.append_nil], secondEq.symm⟩
    · exact absurd ⟨before, between, by simp [firstEq]⟩ notInFirst
  · rcases nil_or_comma_of_append_eq restEq with ⟨rfl, secondEq⟩ | ⟨between, _, secondEq⟩
    · exact ⟨by rw [beforeEq, List.append_nil], secondEq⟩
    · exact absurd ⟨between, after, by simp [secondEq]⟩ notInSecond

end Lists

variable {className member moduleName : String}

/-- A name that is separated once is that of one class, member and module only. -/
theorem SeparatedOnce.eq_of_qualifiedName_eq (once : SeparatedOnce className member moduleName)
    {otherClass otherMember otherModule : String}
    (same : qualifiedName otherClass otherMember otherModule =
      qualifiedName className member moduleName) :
    otherClass = className ∧ otherMember = member ∧ otherModule = moduleName := by
  have sameLists := congrArg String.toList same
  rw [toList_qualifiedName, toList_qualifiedName] at sameLists
  obtain ⟨between, classEq, restEq⟩ := exists_of_append_eq once.plus_notMem_class sameLists
  cases between with
  | nil =>
      simp only [List.append_nil, List.nil_append, List.cons.injEq, true_and] at classEq restEq
      obtain ⟨memberEq, moduleEq⟩ :=
        eq_of_comma_append_eq once.comma_notIn_member once.comma_notIn_module restEq.symm
      exact ⟨String.toList_inj.mp classEq, String.toList_inj.mp memberEq,
        String.toList_inj.mp moduleEq⟩
  | cons mark between =>
      -- The other class would go on past the plus, up to one in the module.
      simp only [List.cons_append, List.cons.injEq] at restEq
      have noPlus : '+' ∉ member.toList ++ [',', ' '] := by
        simp [once.plus_notMem_member]
      have sameRest : between ++ '+' :: (otherMember.toList ++ ',' :: ' ' :: otherModule.toList) =
          member.toList ++ [',', ' '] ++ moduleName.toList := by
        rw [← restEq.2, List.append_assoc]
        rfl
      obtain ⟨later, _, moduleEq⟩ := exists_of_append_eq noPlus sameRest
      refine absurd ?_ once.comma_notIn_module
      exact ⟨later ++ '+' :: otherMember.toList, otherModule.toList, by simp [moduleEq]⟩

/-- If a separator stands in a second place, some other class, member and module have the same
name. -/
theorem separatedOnce_iff :
    SeparatedOnce className member moduleName ↔
      ∀ otherClass otherMember otherModule : String,
        qualifiedName otherClass otherMember otherModule =
          qualifiedName className member moduleName →
        otherClass = className ∧ otherMember = member ∧ otherModule = moduleName := by
  refine ⟨fun once _ _ _ same => once.eq_of_qualifiedName_eq same, fun unique => ?_⟩
  have uniqueLists (first second third : List Char)
      (same : first ++ '+' :: (second ++ ',' :: ' ' :: third) = className.toList ++
        '+' :: (member.toList ++ ',' :: ' ' :: moduleName.toList)) :
      first = className.toList ∧ second = member.toList ∧ third = moduleName.toList := by
    have names := unique (.ofList first) (.ofList second) (.ofList third) (by
      rw [← String.toList_inj, toList_qualifiedName, toList_qualifiedName]
      simpa only [String.toList_ofList] using same)
    simpa only [← String.toList_inj, String.toList_ofList] using names
  constructor
  case plus_notMem_class =>
    intro inClass
    obtain ⟨before, after, classEq⟩ := List.append_of_mem inClass
    have apart := uniqueLists before (after ++ '+' :: member.toList) moduleName.toList
      (by simp [classEq])
    simp [classEq] at apart
  case plus_notMem_member =>
    intro inMember
    obtain ⟨before, after, memberEq⟩ := List.append_of_mem inMember
    have apart := uniqueLists (className.toList ++ '+' :: before) after moduleName.toList
      (by simp [memberEq])
    simp at apart
  case comma_notIn_member =>
    rintro ⟨before, after, memberEq⟩
    have apart := uniqueLists className.toList before (after ++ ',' :: ' ' :: moduleName.toList)
      (by simp [← memberEq])
    simp [← memberEq] at apart
  case comma_notIn_module =>
    rintro ⟨before, after, moduleEq⟩
    have apart := uniqueLists className.toList (member.toList ++ ',' :: ' ' :: before) after
      (by simp [← moduleEq])
    simp at apart

end ObjectBridge
