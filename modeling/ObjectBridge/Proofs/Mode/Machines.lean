import ObjectBridge.Proofs.Mode.Bridges

/-!
# Machines that differ in their modes

Two machines are the same but for modes if their bridges and the bodies in progress are.
As long as nothing is collected, they go on in step: whatever the first does next, so does
the second, with the same effect but for the mode of a handle, and they are still the same
but for modes afterwards, in the middle of every body, however deep.
-/

namespace ObjectBridge.Machine

/-- Machines whose bridges and bodies in progress are the same but for modes. -/
structure SameButModes (first second : Machine) : Prop where
  bridge : first.bridge.SameButModes second.bridge
  frames : List.Forall₂ Frame.SameButModes first.frames second.frames

/-- Steps that have the same effect and come to the same but for modes.  Nothing is said of
a step that collects. -/
def InStep (left right : Effect × Machine) : Prop :=
  left.1.collects = false → left.1.owning = right.1.owning ∧ left.2.SameButModes right.2

variable {first second : Machine} {request other : Request}

private theorem resume_rel {frames others : List Frame}
    (same : List.Forall₂ Frame.SameButModes frames others) {answer otherAnswer : Answer}
    (answerEq : answer = otherAnswer) :
    List.Forall₂ Frame.SameButModes (resume answer frames) (resume otherAnswer others) := by
  subst answerEq
  cases same with
  | nil => exact .nil
  | cons here rest => exact .cons (here.resume answer) rest

namespace SameButModes

variable (same : first.SameButModes second)

include same

private theorem react?_rel (asked : request.SameButModes other) :
    Option.Rel InStep (first.react? request) (second.react? other) := by
  have reactions := same.bridge.react asked
  rw [react?, react?]
  generalize first.bridge.react request = left at reactions ⊢
  generalize second.bridge.react other = right at reactions ⊢
  cases reactions with
  | answered alike =>
      refine .some fun keeps => ?_
      obtain ⟨answerEq, rfl, bridges⟩ := alike keeps
      exact ⟨rfl, bridges, resume_rel same.frames answerEq⟩
  | begun here bridges => exact .some fun _ => ⟨rfl, bridges, .cons here same.frames⟩
  | reentered object => exact .none

/-- Whatever is asked for in the one, the same is asked for in the other but for the mode. -/
theorem asks (asked : Asks first.frames request) :
    ∃ other, request.SameButModes other ∧ Asks second.frames other := by
  rcases first with ⟨firstBridge, frames⟩
  rcases second with ⟨secondBridge, others⟩
  obtain ⟨bridges, framesSame⟩ := same
  cases framesSame with
  | nil => exact ⟨request, .refl request, trivial⟩
  | @cons frame otherFrame frames others here rest =>
      have requests := here.request?_rel
      have requestEq : frame.request? = some request := asked
      rw [requestEq] at requests
      generalize otherEq : otherFrame.request? = otherAsks at requests
      cases requests with
      | some nestedSame => exact ⟨_, nestedSame, otherEq⟩

/-- Machines that are the same but for modes go on in step. -/
theorem next?_rel (asked : request.SameButModes other) :
    Option.Rel InStep (first.next? request) (second.next? other) := by
  have reacts := same.react?_rel asked
  have nested (asks : Request) (otherAsks : Request) (nestedSame : asks.SameButModes otherAsks) :=
    same.react?_rel nestedSame
  rcases first with ⟨firstBridge, frames⟩
  rcases second with ⟨secondBridge, others⟩
  obtain ⟨bridges, framesSame⟩ := same
  cases framesSame with
  | nil => exact reacts
  | @cons frame otherFrame frames others here rest =>
      simp only [next?]
      have requests := here.request?_rel
      generalize frame.request? = asks at requests ⊢
      generalize otherFrame.request? = otherAsks at requests ⊢
      cases requests with
      | some nestedSame => exact nested _ _ nestedSame
      | none =>
          have advances := bridges.advance here
          have finishes := bridges.finish here
          generalize frame.advance? firstBridge = left at advances ⊢
          generalize otherFrame.advance? secondBridge = right at advances ⊢
          cases advances with
          | some gone => exact .some fun _ => ⟨rfl, gone.2, .cons gone.1 rest⟩
          | none =>
              generalize frame.finish? firstBridge = left at finishes ⊢
              generalize otherFrame.finish? secondBridge = right at finishes ⊢
              cases finishes with
              | none => exact .none
              | some ended =>
                  refine .some fun keeps => ?_
                  obtain ⟨answerEq, effectEq, afterSame⟩ := ended keeps
                  exact ⟨effectEq, afterSame, resume_rel rest answerEq⟩

/-- Two machines that are asked for the same but for modes are the same but for modes after
any number of steps, if nothing was collected until then, and what they did has the same
effects. -/
theorem proceed (asked : request.SameButModes other) (steps : Nat)
    (uncollected :
      (Machine.proceed request steps first).2.bridge.store.heap.collections = 0) :
    (Machine.proceed request steps first).1.map Effect.owning =
        (Machine.proceed other steps second).1.map Effect.owning ∧
      (Machine.proceed request steps first).2.SameButModes
        (Machine.proceed other steps second).2 := by
  induction steps with
  | zero => exact ⟨rfl, same⟩
  | succ steps ih =>
      simp only [Machine.proceed] at uncollected ⊢
      cases next : (Machine.proceed request steps first).2.next? request with
      | none =>
          rw [next] at uncollected
          obtain ⟨historyEq, middleSame⟩ := ih uncollected
          have steps := middleSame.next?_rel asked
          rw [next] at steps
          generalize (Machine.proceed other _ second).2.next? other = right at steps ⊢
          cases steps with
          | none => exact ⟨historyEq, middleSame⟩
      | some taken =>
          rw [next] at uncollected
          obtain ⟨keeps, before⟩ := (step_of_next? next).change.uncollected uncollected
          obtain ⟨historyEq, middleSame⟩ := ih before
          have steps := middleSame.next?_rel asked
          rw [next] at steps
          generalize (Machine.proceed other _ second).2.next? other = right at steps ⊢
          cases steps with
          | some inStep =>
              obtain ⟨effectEq, lastSame⟩ := inStep keeps
              exact ⟨congrArg₂ List.cons effectEq historyEq, lastSame⟩

end SameButModes

end ObjectBridge.Machine
