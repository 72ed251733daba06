import ObjectBridge.Proofs.Bridge.Change
import ObjectBridge.Proofs.Bridge.Reactions

/-!
# The invariant of the machine

In every state that the machine reaches, handles and objects agree, and the
calls that the store holds receivers for are those on the stack of frames.
-/

namespace ObjectBridge

open Machine

/-! ## Steps as changes of the store -/

namespace Bridge

variable {bridge after : Bridge}

/-- A bridge that answers at once has the same calls in progress. -/
theorem change_of_answered {request : Request} {answer : Answer} {effect : Effect}
    (answered : bridge.react request = .answered answer effect after) :
    bridge.store.Change effect after.store ∧ after.store.running = bridge.store.running := by
  cases answers_of_react answered with
  | unknown absent => exact ⟨.told #[_], rfl⟩
  | unprepared | unresolved | undispatched | unreleased => exact ⟨.refl _, rfl⟩
  | released released =>
      obtain ⟨_, _, _, _, storeEq⟩ := Store.exists_of_release released
      exact ⟨.released released, by rw [storeEq]⟩
  | collected =>
      obtain ⟨_, _, _, _, collectEq⟩ := bridge.store.collect_eq
      have runningEq := congrArg Store.running collectEq
      exact ⟨.collected, runningEq⟩

theorem change_of_finishConstruction {work : Construction} {mode : HandleMode}
    {result : Except Fault ObjectState} {outcome : Except BridgeError (Option Token)}
    {effect : Effect}
    (finishes : bridge.finishConstruction work mode result = (outcome, effect, after)) :
    bridge.store.Change effect after.store ∧ after.store.running = bridge.store.running := by
  cases finishes_of_finishConstruction finishes with
  | raised => exact ⟨.refl _, rfl⟩
  | @issued _ _ _ _ store allocates registered =>
      obtain ⟨_, _, _, _, _, allocatedEq⟩ := Store.exists_of_allocate allocates
      obtain ⟨_, _, _, registeredEq⟩ := Store.exists_of_register registered
      refine ⟨.issued allocates registered, ?_⟩
      change store.running = _
      rw [registeredEq, allocatedEq]
  | @unissued _ _ store _ allocates registered =>
      obtain ⟨_, _, _, _, _, allocatedEq⟩ := Store.exists_of_allocate allocates
      refine ⟨.allocated allocates, ?_⟩
      change store.running = _
      rw [allocatedEq]

private theorem change_of_advanceBody {σ α : Type} {save : σ → Bridge → Bridge}
    {body next : Program σ α}
    (saves : ∀ state, bridge.store.Change .quiet (save state bridge).store ∧
      (save state bridge).store.running = bridge.store.running)
    (advanced : body.advance? save bridge = some (next, after)) :
    bridge.store.Change .quiet after.store ∧ after.store.running = bridge.store.running := by
  cases body with
  | write state rest =>
      cases advanced
      exact saves state
  | internalCall className member moduleName next =>
      cases advanced
      exact ⟨.refl _, rfl⟩
  | draw next =>
      cases advanced
      exact ⟨.refl _, rfl⟩
  | _ => cases advanced

/-- A body that goes on by itself writes the state of its receiver at most. -/
theorem change_of_advance {frame next : Frame}
    (advanced : frame.advance? bridge = some (next, after)) :
    bridge.store.Change .quiet after.store ∧ after.store.running = bridge.store.running ∧
      next.receiver? = frame.receiver? := by
  cases frame with
  | construction work mode =>
      obtain ⟨body, bodyAdvanced, rfl⟩ := Frame.advance?_construction_eq_some_iff.mp advanced
      obtain ⟨change, runningEq⟩ :=
        change_of_advanceBody (fun state => nomatch state) bodyAdvanced
      exact ⟨change, runningEq, rfl⟩
  | invocation work =>
      obtain ⟨body, bodyAdvanced, rfl⟩ := Frame.advance?_invocation_eq_some_iff.mp advanced
      obtain ⟨change, runningEq⟩ :=
        change_of_advanceBody (fun state => ⟨.wrote work.receiver state, rfl⟩) bodyAdvanced
      exact ⟨change, runningEq, rfl⟩

end Bridge

namespace Machine

variable {machine after first last : Machine} {effect : Effect} {history : List Effect}

/-- A step changes the store as its effect says. -/
theorem Step.change (step : Step machine effect after) :
    machine.bridge.store.Change effect after.bridge.store := by
  cases step with
  | answered asks answered => exact (Bridge.change_of_answered answered).1
  | begun asks begun =>
      cases Bridge.begins_of_react begun with
      | construction => exact .refl _
      | invocation resolved idle => exact .entered resolved
  | advanced advanced => exact (Bridge.change_of_advance advanced).1
  | @ended bridge _ _ frame _ _ ended =>
      cases frame with
      | construction work mode =>
          simp only [Frame.finish?, Option.map_eq_some_iff] at ended
          obtain ⟨result, _, finishes⟩ := ended
          cases finishes
          exact (Bridge.change_of_finishConstruction rfl).1
      | invocation work =>
          simp only [Frame.finish?, Option.map_eq_some_iff] at ended
          obtain ⟨result, _, finishes⟩ := ended
          cases finishes
          exact .left
  | @outside bridge after events storeEq =>
      change bridge.store.Change .quiet after.store
      rw [storeEq]
      exact .told events

/-! ## The invariant -/

/-- Handles and objects agree, and the calls in progress are those of the frames. -/
structure Valid (machine : Machine) : Prop where
  coherent : machine.bridge.store.Coherent
  running_eq : machine.bridge.store.running = receivers machine.frames
  kept_eq : machine.bridge.store.kept = []

theorem valid_start (options : BridgeOptions) (registry : TypeRegistry) :
    (start options registry).Valid where
  coherent := Store.coherent_empty options.gcThreshold
  running_eq := rfl
  kept_eq := rfl

theorem Step.running_eq (step : Step machine effect after)
    (runningEq : machine.bridge.store.running = receivers machine.frames) :
    after.bridge.store.running = receivers after.frames := by
  cases step with
  | answered asks answered =>
      rw [receivers_resume]
      exact (Bridge.change_of_answered answered).2.trans runningEq
  | begun asks begun =>
      cases Bridge.begins_of_react begun with
      | construction => exact runningEq
      | @invocation _ _ _ work resolved idle => exact congrArg (work.receiver :: ·) runningEq
  | advanced advanced =>
      obtain ⟨_, bridgeEq, receiverEq⟩ := Bridge.change_of_advance advanced
      rw [receivers, List.filterMap_cons, receiverEq, bridgeEq, runningEq, receivers,
        List.filterMap_cons]
  | @ended bridge after frames frame answer _ ended =>
      change after.store.running = receivers (resume answer frames)
      rw [receivers_resume]
      cases frame with
      | construction work mode =>
          simp only [Frame.finish?, Option.map_eq_some_iff] at ended
          obtain ⟨result, _, finishes⟩ := ended
          cases finishes
          exact (Bridge.change_of_finishConstruction rfl).2.trans runningEq
      | invocation work =>
          simp only [Frame.finish?, Option.map_eq_some_iff] at ended
          obtain ⟨result, _, finishes⟩ := ended
          cases finishes
          obtain ⟨_, _, leaveEq⟩ := bridge.store.leave_eq
          have tailEq : bridge.store.running.tail = receivers frames := congrArg List.tail runningEq
          rw [← tailEq]
          exact congrArg Store.running leaveEq
  | outside storeEq =>
      rw [storeEq]
      exact runningEq

theorem Step.valid (step : Step machine effect after) (valid : machine.Valid) : after.Valid where
  coherent := step.change.coherent valid.coherent
  running_eq := step.running_eq valid.running_eq
  kept_eq := step.change.grows.1.trans valid.kept_eq

theorem Reaches.valid (reaches : Reaches first history last) (valid : first.Valid) :
    last.Valid := by
  induction reaches with
  | refl => exact valid
  | tail _ step ih => exact step.valid ih

/-- The journal of a run is never rewritten. -/
theorem Reaches.journal_eq (reaches : Reaches first history last) :
    ∃ events, last.bridge.store.journal = first.bridge.store.journal ++ events := by
  induction reaches with
  | refl => exact ⟨#[], by rw [Array.append_empty]⟩
  | tail _ step ih =>
      obtain ⟨earlier, earlierEq⟩ := ih
      obtain ⟨later, laterEq⟩ := step.change.grows.2
      exact ⟨earlier ++ later, by rw [laterEq, earlierEq, Array.append_assoc]⟩

/-- Something refers to the object from outside the heap: an owning handle, or a call
in progress. -/
def Referenced (machine : Machine) (id : ObjectId) : Prop :=
  (∃ token, machine.bridge.store.handles.cell? token = some ⟨.owning, id⟩) ∨
    ∃ frame ∈ machine.frames, frame.receiver? = some id

theorem Valid.outside_pos_iff (valid : machine.Valid) {id : ObjectId} :
    0 < machine.bridge.store.outside id ↔ machine.Referenced id := by
  rw [valid.coherent.outside_pos_iff, valid.running_eq, valid.kept_eq, Referenced, receivers,
    List.mem_filterMap]
  simp

end Machine

end ObjectBridge
