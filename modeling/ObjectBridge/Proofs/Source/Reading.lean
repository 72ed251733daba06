import ObjectBridge.Source.Block.Reading

/-!
# What is read of functions

Two things that the exporter decides by are not kept as they are written: whether a function
is visible everywhere, and how it takes its receiver.  Here the readers of both are compared
with the text.
-/

namespace ObjectBridge.Source

/-! ## Reading in order -/

namespace Reader

variable {tokens rest taken : List Token}

theorem bind_eq_some_iff {α β : Type} {first : Reader α} {next : α → Reader β}
    {result : β × List Token} :
    (first >>= next) tokens = some result ↔
      ∃ answer left, first tokens = some (answer, left) ∧ next answer left = some result := by
  simp only [bind, StateT.bind]
  cases first tokens with
  | none => simp
  | some found =>
      constructor
      · intro read
        exact ⟨found.1, found.2, rfl, read⟩
      · rintro ⟨_, _, foundEq, read⟩
        cases foundEq
        exact read

theorem onlyIf_eq (test : List Token → Bool) (reader : Reader (List Token))
    (tokens : List Token) :
    onlyIf test reader tokens = if test tokens then reader tokens else some ([], tokens) := by
  change (if test tokens = true then reader else pure []) tokens = _
  split <;> rfl

theorem one_eq (accepts : Token → Bool) (tokens : List Token) :
    one accepts tokens =
      if tokens.head?.any accepts then some (tokens.take 1, tokens.drop 1) else none := by
  rcases tokens with _ | ⟨first, others⟩
  · rfl
  · change ((fun found => [found]) <$> (do
      let _ ← (if accepts first = true then pure () else failure : Reader Unit)
      let _ ← set others
      pure first : Reader Token)) (first :: others) = if accepts first = true then _ else _
    split <;> rfl

/-- One token is taken from the head. -/
theorem of_one {accepts : Token → Bool} (read : one accepts tokens = some (taken, rest)) :
    taken.length = 1 ∧ rest = tokens.drop 1 := by
  rw [one_eq] at read
  rcases tokens with _ | ⟨first, others⟩
  · cases read
  · split at read <;> cases read
    exact ⟨rfl, rfl⟩

/-- A token that may be missing is taken if it is there. -/
theorem onlyIf_one (accepts : Token → Bool) (tokens : List Token) :
    onlyIf (fun tokens => tokens.head?.any accepts) (one accepts) tokens =
      if tokens.head?.any accepts then some (tokens.take 1, tokens.drop 1)
      else some ([], tokens) := by
  rw [onlyIf_eq, one_eq]
  split <;> rfl

theorem isEmpty_of_wordIf {text : String} (read : wordIf text tokens = some (taken, rest)) :
    taken.isEmpty = !startsWord text tokens := by
  have readEq : wordIf text tokens = _ := onlyIf_one (·.isWord text) tokens
  rw [startsWord]
  rcases tokens with _ | ⟨first, others⟩
  · rw [readEq] at read
    cases read
    rfl
  · rw [readEq] at read
    split at read
    · rename_i starts
      cases read
      exact congrArg not starts.symm
    · rename_i starts
      cases read
      exact congrArg not (Bool.eq_false_iff.mpr starts).symm

theorem rest_of_lifetimeIf (read : lifetimeIf tokens = some (taken, rest)) :
    rest = if startsKind .lifetime tokens then tokens.drop 1 else tokens := by
  have readEq : lifetimeIf tokens = _ := onlyIf_one (·.kind == .lifetime) tokens
  rw [startsKind]
  rw [readEq] at read
  split at read <;> cases read <;> simp [*]

theorem operatorIf_eq (text : String) (tokens : List Token) :
    operatorIf text tokens =
      if startsOperator text tokens then
        some (tokens.take text.length, tokens.drop text.length)
      else some ([], tokens) := by
  rw [operatorIf, onlyIf_eq]
  split
  · rename_i starts
    change (do
      let _ ← (if startsOperator text tokens = true then pure () else failure : Reader Unit)
      let _ ← set (tokens.drop text.length)
      pure (tokens.take text.length)) tokens = _
    rw [if_pos starts]
    rfl
  · rfl

end Reader

/-! ## Receivers -/

/-- How a parameter that is a receiver is written: as a reference, which a lifetime may
follow, mutable if it says so, or else by value. -/
def writtenReceiver (tokens : List Token) : ReceiverForm :=
  if startsOperator "&" tokens then
    let afterMark := tokens.drop 1
    let afterRegion := if startsKind .lifetime afterMark then afterMark.drop 1 else afterMark
    if startsWord "mut" afterRegion then .mutable else .shared
  else .byValue

open Reader

variable {tokens rest : List Token}

/-- A receiver is read as it is written. -/
theorem receiver_form {nested : Nested} {found : ParameterText}
    (read : nested.receiver tokens = some (found, rest)) :
    found.form = .receiver (writtenReceiver tokens) := by
  obtain ⟨reference, afterMark, referenceEq, read⟩ := bind_eq_some_iff.mp read
  rw [operatorIf_eq] at referenceEq
  rw [writtenReceiver]
  cases starts : startsOperator "&" tokens with
  | false =>
      rw [starts] at referenceEq
      cases referenceEq
      obtain ⟨_, _, _, read⟩ := bind_eq_some_iff.mp read
      obtain ⟨_, _, _, read⟩ := bind_eq_some_iff.mp read
      obtain ⟨_, _, _, read⟩ := bind_eq_some_iff.mp read
      obtain ⟨_, _, _, read⟩ := bind_eq_some_iff.mp read
      cases read
      rfl
  | true =>
      rcases tokens with _ | ⟨mark, others⟩
      · contradiction
      · rw [starts] at referenceEq
        cases referenceEq
        obtain ⟨region, afterRegion, regionEq, read⟩ := bind_eq_some_iff.mp read
        obtain ⟨mode, _, modeEq, read⟩ := bind_eq_some_iff.mp read
        obtain ⟨_, _, _, read⟩ := bind_eq_some_iff.mp read
        obtain ⟨_, _, _, read⟩ := bind_eq_some_iff.mp read
        cases read
        have afterRegionEq : afterRegion =
            if startsKind .lifetime others then others.drop 1 else others :=
          rest_of_lifetimeIf regionEq
        dsimp only
        rw [if_pos rfl, if_neg (by simp), isEmpty_of_wordIf modeEq]
        change ParameterForm.receiver _ = .receiver (if startsWord "mut"
          (if startsKind .lifetime others then others.drop 1 else others) then _ else _)
        rw [← afterRegionEq]
        cases startsWord "mut" afterRegion <;> rfl

/-! ## Visibility -/

/-- Whether an item that is not preceded by attributes is visible everywhere. -/
def isPlainlyPublic (tokens : List Token) : Bool :=
  startsWord "pub" tokens && !startsRestriction (tokens.drop 1)

theorem length_group {taken : List Token} (read : group tokens = some (taken, rest)) :
    2 ≤ taken.length := by
  obtain ⟨left, afterLeft, leftEq, read⟩ := bind_eq_some_iff.mp read
  obtain ⟨found, afterFound, _, read⟩ := bind_eq_some_iff.mp read
  obtain ⟨right, afterRight, rightEq, read⟩ := bind_eq_some_iff.mp read
  cases read
  rw [List.length_append, List.length_append, (of_one leftEq).1, (of_one rightEq).1]
  omega

theorem visibility_length {taken : List Token} (read : visibility tokens = some (taken, rest)) :
    (taken.length == 1) = isPlainlyPublic tokens := by
  rw [visibility, onlyIf_eq] at read
  rw [isPlainlyPublic]
  cases starts : startsWord "pub" tokens with
  | false =>
      rw [starts] at read
      cases read
      rfl
  | true =>
      rw [starts, if_pos rfl] at read
      obtain ⟨lead, afterLead, leadEq, read⟩ := bind_eq_some_iff.mp read
      obtain ⟨restriction, _, restrictionEq, read⟩ := bind_eq_some_iff.mp read
      cases read
      obtain ⟨leadLength, afterLeadEq⟩ := of_one leadEq
      rw [onlyIf_eq, afterLeadEq] at restrictionEq
      rw [List.length_append, leadLength]
      cases restricts : startsRestriction (tokens.drop 1) with
      | false =>
          rw [restricts] at restrictionEq
          cases restrictionEq
          rfl
      | true =>
          rw [restricts, if_pos rfl] at restrictionEq
          have restrictionLength := length_group restrictionEq
          have longer : 1 + restriction.length ≠ 1 := by omega
          simpa using longer

/-- A function of a block is public if it is written as visible everywhere. -/
theorem isPublic_of_blockItem {nested : Nested} {item : FunctionItem}
    (read : nested.blockItem tokens = some (.function item, rest)) :
    ∃ attributes declared, markers nested.bound false tokens = some (attributes, declared) ∧
      item.isPublic = isPlainlyPublic declared := by
  obtain ⟨_, _, getEq, read⟩ := bind_eq_some_iff.mp read
  obtain ⟨outer, declared, outerEq, read⟩ := bind_eq_some_iff.mp read
  obtain ⟨visible, afterVisible, visibleEq, read⟩ := bind_eq_some_iff.mp read
  obtain ⟨_, afterDefault, _, read⟩ := bind_eq_some_iff.mp read
  obtain ⟨isFunction, _, aheadEq, read⟩ := bind_eq_some_iff.mp read
  cases getEq
  refine ⟨outer, declared, outerEq, ?_⟩
  rw [← visibility_length visibleEq]
  cases isFunction with
  | false =>
      obtain ⟨_, _, _, read⟩ := bind_eq_some_iff.mp read
      obtain ⟨_, _, _, read⟩ := bind_eq_some_iff.mp read
      cases read
  | true =>
      rw [if_pos rfl] at read
      obtain ⟨signature, _, _, read⟩ := bind_eq_some_iff.mp read
      obtain ⟨hasBody, _, _, read⟩ := bind_eq_some_iff.mp read
      cases hasBody with
      | false =>
          obtain ⟨_, _, _, read⟩ := bind_eq_some_iff.mp read
          obtain ⟨_, _, _, read⟩ := bind_eq_some_iff.mp read
          cases read
      | true =>
          obtain ⟨_, _, _, read⟩ := bind_eq_some_iff.mp read
          obtain ⟨_, _, _, read⟩ := bind_eq_some_iff.mp read
          obtain ⟨_, _, _, read⟩ := bind_eq_some_iff.mp read
          obtain ⟨_, _, _, read⟩ := bind_eq_some_iff.mp read
          cases read
          rfl

end ObjectBridge.Source
