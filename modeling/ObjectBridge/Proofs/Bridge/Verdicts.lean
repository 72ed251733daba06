import ObjectBridge.Proofs.Bridge.Natives

/-!
# Verdicts on native calls

Native code learns whether a call failed from the reports alone, since a call that fails
is answered with a fallback.  A call fails with an error, or it succeeds, or it is not
answered at all, and no two of these can be confused: failing leaves a notice that names
the error, and nothing else that a call does leaves any.
-/

namespace ObjectBridge

namespace NativeCall

variable {call : NativeCall} {services : Services} {bridge : Bridge} {error : BridgeError}
  {response : Response}

/-- The call is answered with the fallback, and the error is reported. -/
def FailsWith (call : NativeCall) (services : Services) (bridge : Bridge) (error : BridgeError) :
    Prop :=
  ∃ middle, bridge.Quiet middle ∧ call.hostCall.perform services bridge =
    .ok (call.response none, middle.fail call.site error)

/-- The call is answered, and nothing is reported. -/
def Succeeds (call : NativeCall) (services : Services) (bridge : Bridge) (response : Response) :
    Prop :=
  ∃ after, bridge.Quiet after ∧ call.hostCall.perform services bridge = .ok (response, after)

/-- The call is not answered. -/
def Halts (call : NativeCall) (services : Services) (bridge : Bridge) : Prop :=
  ∃ halt, call.hostCall.perform services bridge = .error halt

theorem Succeeds.unique {other : Response} (succeeds : call.Succeeds services bridge response)
    (otherwise : call.Succeeds services bridge other) : response = other := by
  obtain ⟨_, _, performed⟩ := succeeds
  obtain ⟨_, _, otherPerformed⟩ := otherwise
  cases performed.symm.trans otherPerformed
  rfl

/-- What an attempt comes to, decides what the call comes to. -/
inductive Verdict (call : NativeCall) (services : Services) (bridge : Bridge) : Prop
  | fails {error : BridgeError} {middle : Bridge} :
      call.attempt services bridge = .ok (.error error, middle) → bridge.Quiet middle →
      call.hostCall.perform services bridge =
        .ok (call.response none, middle.fail call.site error) →
      Verdict call services bridge
  | succeeds {issued : Option Token} {after : Bridge} :
      call.attempt services bridge = .ok (.ok issued, after) → bridge.Quiet after →
      call.hostCall.perform services bridge = .ok (call.response issued, after) →
      Verdict call services bridge
  | halts {halt : Halt} :
      call.attempt services bridge = .error halt →
      call.hostCall.perform services bridge = .error halt →
      Verdict call services bridge

theorem verdict (quiet : services.Quiet) (keeps : ∀ listener, call ≠ .setListener listener)
    (bridge : Bridge) : call.Verdict services bridge := by
  have performEq := congrFun (perform_hostCall services call) bridge
  simp only [bind, StateT.bind] at performEq
  cases attempted : call.attempt services bridge with
  | error halt =>
      rw [attempted] at performEq
      exact .halts attempted performEq
  | ok reached =>
      rcases reached with ⟨outcome, middle⟩
      have kept := (quiet_attempt quiet keeps).quiet attempted
      rw [attempted] at performEq
      cases outcome with
      | error error => exact .fails attempted kept performEq
      | ok issued => exact .succeeds attempted kept performEq

/-- Failing adds a notice that says with which error, so it is told apart from success and
from failing otherwise. -/
theorem error_of_fail_eq {site : String} {first second : Bridge} (firstQuiet : bridge.Quiet first)
    (secondQuiet : bridge.Quiet second) {other : BridgeError}
    (failEq : first.fail site error = second.fail site other) : error = other := by
  have noticesEq := congrArg (fun after => after.store.notices) failEq
  simp only [Bridge.notices_fail, firstQuiet.notices_eq, secondQuiet.notices_eq,
    ReportDesk.noticesOf] at noticesEq
  simpa using (List.cons.inj (List.append_cancel_left noticesEq)).1

theorem fail_ne {site : String} {middle after : Bridge} (middleQuiet : bridge.Quiet middle)
    (afterQuiet : bridge.Quiet after) : middle.fail site error ≠ after := by
  intro failEq
  have noticesEq := congrArg (fun after => after.store.notices) failEq
  simp only [Bridge.notices_fail, middleQuiet.notices_eq, afterQuiet.notices_eq,
    ReportDesk.noticesOf] at noticesEq
  simp at noticesEq

theorem failsWith_iff (quiet : services.Quiet)
    (keeps : ∀ listener, call ≠ .setListener listener) :
    call.FailsWith services bridge error ↔
      ∃ middle, call.attempt services bridge = .ok (.error error, middle) := by
  cases verdict quiet keeps bridge with
  | fails attempted kept performed =>
      constructor
      · rintro ⟨middle, middleQuiet, failed⟩
        have pairEq := Except.ok.inj (performed.symm.trans failed)
        cases error_of_fail_eq kept middleQuiet (Prod.mk.inj pairEq).2
        exact ⟨_, attempted⟩
      · rintro ⟨middle, failed⟩
        cases attempted.symm.trans failed
        exact ⟨_, kept, performed⟩
  | succeeds attempted kept performed =>
      constructor
      · rintro ⟨middle, middleQuiet, failed⟩
        have pairEq := Except.ok.inj (failed.symm.trans performed)
        exact absurd (Prod.mk.inj pairEq).2 (fail_ne middleQuiet kept)
      · rintro ⟨middle, failed⟩
        cases attempted.symm.trans failed
  | halts attempted performed =>
      constructor
      · rintro ⟨_, _, failed⟩
        cases performed.symm.trans failed
      · rintro ⟨_, failed⟩
        cases attempted.symm.trans failed

theorem succeeds_iff (quiet : services.Quiet)
    (keeps : ∀ listener, call ≠ .setListener listener) :
    call.Succeeds services bridge response ↔
      ∃ issued after, call.attempt services bridge = .ok (.ok issued, after) ∧
        response = call.response issued := by
  cases verdict quiet keeps bridge with
  | fails attempted kept performed =>
      constructor
      · rintro ⟨after, afterQuiet, answered⟩
        have pairEq := Except.ok.inj (performed.symm.trans answered)
        exact absurd (Prod.mk.inj pairEq).2 (fail_ne kept afterQuiet)
      · rintro ⟨_, _, answered, _⟩
        cases attempted.symm.trans answered
  | succeeds attempted kept performed =>
      constructor
      · rintro ⟨after, _, answered⟩
        cases performed.symm.trans answered
        exact ⟨_, _, attempted, rfl⟩
      · rintro ⟨_, _, answered, rfl⟩
        cases attempted.symm.trans answered
        exact ⟨_, kept, performed⟩
  | halts attempted performed =>
      constructor
      · rintro ⟨_, _, answered⟩
        cases performed.symm.trans answered
      · rintro ⟨_, _, answered, _⟩
        cases attempted.symm.trans answered

theorem halts_iff (quiet : services.Quiet)
    (keeps : ∀ listener, call ≠ .setListener listener) :
    call.Halts services bridge ↔ ∃ halt, call.attempt services bridge = .error halt := by
  cases verdict quiet keeps bridge with
  | fails attempted _ performed | succeeds attempted _ performed =>
      constructor
      · rintro ⟨_, halted⟩
        cases performed.symm.trans halted
      · rintro ⟨_, halted⟩
        cases attempted.symm.trans halted
  | halts attempted performed => exact ⟨fun _ => ⟨_, attempted⟩, fun _ => ⟨_, performed⟩⟩

/-- A call that is answered succeeds unless it fails. -/
theorem exists_succeeds_iff (bridge : Bridge) (quiet : services.Quiet)
    (keeps : ∀ listener, call ≠ .setListener listener) :
    (∃ response, call.Succeeds services bridge response) ↔
      (∀ error, ¬call.FailsWith services bridge error) ∧ ¬call.Halts services bridge := by
  simp only [succeeds_iff quiet keeps, failsWith_iff quiet keeps, halts_iff quiet keeps]
  cases verdict quiet keeps bridge with
  | fails attempted | succeeds attempted | halts attempted => simp [attempted]

end NativeCall

end ObjectBridge
