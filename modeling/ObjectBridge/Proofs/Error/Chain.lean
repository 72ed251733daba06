import ObjectBridge.Error.Fault

/-!
# Chains of causes

A failure names at most one other failure as its source: a fault what it was raised
because of, and an invocation the fault that its body raised.  No other failure names one.
Failures are finite, so following the sources comes to an end, and a report shows what was
found on the way: the text of the failure, then one numbered line for each source.

What a file system or a document reader adds to an error of the options is no part of the
error here.
-/

namespace ObjectBridge

/-! ## Sources -/

/-- What a failure was raised because of, if it names anything. -/
def Failure.source? : Failure → Option Failure
  | .fault (.because _ source) => some source
  | .bridge (.invocation _ raised) => some (.fault raised)
  | _ => none

/-- The failures that lie behind a failure, outermost first. -/
inductive Failure.Chain : Failure → List Failure → Prop
  | last {failure : Failure} : failure.source? = none → Chain failure []
  | link {failure source : Failure} {below : List Failure} :
      failure.source? = some source → Chain source below → Chain failure (source :: below)

/-- An error of one layer with the text of the cause that it stands for. -/
inductive BridgeError.Wraps : BridgeError → String → Prop
  | marshal (cause : MarshalError) : Wraps (.marshal cause) cause.message
  | handle (cause : HandleError) : Wraps (.handle cause) cause.message
  | dispatch (cause : DispatchError) : Wraps (.dispatch cause) cause.message
  | interop (cause : InteropError) : Wraps (.interop cause) cause.message

/-- Texts one to a line, numbered from a depth on. -/
def numberedLines : Nat → List String → String
  | _, [] => ""
  | depth, text :: rest => s!"\n    {depth}: {text}" ++ numberedLines (depth + 1) rest

/-- The text of a failure, and then those of the failures that lie behind it, if any do. -/
def reportOf : List String → String
  | [] => ""
  | [text] => text
  | text :: below => text ++ "\nCaused by:" ++ numberedLines 0 below

namespace Failure

variable {failure source : Failure} {chain above below : List Failure}

theorem sizeOf_source?_lt (sourceEq : failure.source? = some source) :
    sizeOf source < sizeOf failure := by
  cases failure with
  | text message => contradiction
  | fault raised =>
      cases raised with
      | plain message => contradiction
      | because message named =>
          cases sourceEq
          simp only [fault.sizeOf_spec, Fault.because.sizeOf_spec]
          omega
  | bridge error =>
      cases error with
      | invocation target raised =>
          cases sourceEq
          simp only [fault.sizeOf_spec, bridge.sizeOf_spec, BridgeError.invocation.sizeOf_spec]
          omega
      | _ => contradiction

theorem causes_of_source?_eq_none (sourceEq : failure.source? = none) : failure.causes = [] := by
  cases failure with
  | text message => rfl
  | fault raised =>
      cases raised with
      | plain message => rfl
      | because message named => contradiction
  | bridge error =>
      cases error with
      | invocation target raised => contradiction
      | _ => rfl

theorem causes_of_source?_eq_some (sourceEq : failure.source? = some source) :
    failure.causes = source.message :: source.causes := by
  cases failure with
  | text message => contradiction
  | fault raised =>
      cases raised with
      | plain message => contradiction
      | because message named =>
          cases sourceEq
          rfl
  | bridge error =>
      cases error with
      | invocation target raised =>
          cases sourceEq
          rfl
      | _ => contradiction

/-! ## Chains -/

theorem exists_chain (failure : Failure) : ∃ chain, failure.Chain chain := by
  cases sourceEq : failure.source? with
  | none => exact ⟨[], .last sourceEq⟩
  | some source =>
      obtain ⟨below, chain⟩ := exists_chain source
      exact ⟨source :: below, .link sourceEq chain⟩
termination_by sizeOf failure
decreasing_by exact sizeOf_source?_lt sourceEq

namespace Chain

theorem unique {other : List Failure} (first : failure.Chain chain) (second : failure.Chain other) :
    other = chain := by
  induction first generalizing other with
  | last sourceEq =>
      cases second with
      | last _ => rfl
      | link otherEq _ =>
          rw [sourceEq] at otherEq
          contradiction
  | link sourceEq _ ih =>
      cases second with
      | last otherEq =>
          rw [sourceEq] at otherEq
          contradiction
      | link otherEq rest =>
          rw [sourceEq] at otherEq
          cases otherEq
          rw [ih rest]

theorem causes_eq (links : failure.Chain chain) : failure.causes = chain.map message := by
  induction links with
  | last sourceEq => exact causes_of_source?_eq_none sourceEq
  | link sourceEq _ ih => rw [causes_of_source?_eq_some sourceEq, ih, List.map_cons]

/-- From each link on, a chain is that of the link. -/
theorem of_append (links : failure.Chain (above ++ source :: below)) : source.Chain below := by
  induction above generalizing failure with
  | nil =>
      cases links with
      | link _ rest => exact rest
  | cons first above ih =>
      cases links with
      | link _ rest => exact ih rest

end Chain

end Failure

/-! ## Wrappers -/

namespace BridgeError.Wraps

variable {error : BridgeError} {text : String}

theorem message_eq (wraps : error.Wraps text) : error.message = text := by
  cases wraps <;> rfl

/-- An error that stands for its cause does not name it as its source as well. -/
theorem chain (wraps : error.Wraps text) : (Failure.bridge error).Chain [] := by
  cases wraps <;> exact .last rfl

/-- An error that stands for its cause is the last link of every chain that it is in. -/
theorem eq_nil_of_chain (wraps : error.Wraps text) {failure : Failure}
    {above below : List Failure} (links : failure.Chain (above ++ .bridge error :: below)) :
    below = [] :=
  wraps.chain.unique links.of_append

end BridgeError.Wraps

/-! ## Reports -/

private theorem join_causes (causes : List String) (depth : Nat) :
    String.join ((causes.zipIdx depth).map fun (text, depth) => s!"\n    {depth}: {text}") =
      numberedLines depth causes := by
  induction causes generalizing depth with
  | nil => rfl
  | cons text rest ih =>
      rw [List.zipIdx_cons, List.map_cons, String.join_cons, ih, numberedLines]

namespace Failure

/-- A report has the texts of the failure and of its causes. -/
theorem report_eq (failure : Failure) :
    failure.report = reportOf (failure.message :: failure.causes) := by
  rw [report]
  cases failure.causes with
  | nil => rfl
  | cons text rest =>
      change failure.message ++ "\nCaused by:" ++ causeLines (text :: rest) = _
      rw [causeLines, join_causes, reportOf]
      exact List.cons_ne_nil text rest

theorem Chain.report_eq {failure : Failure} {chain : List Failure} (links : failure.Chain chain) :
    failure.report = reportOf ((failure :: chain).map message) := by
  rw [Failure.report_eq, links.causes_eq, List.map_cons]

end Failure

end ObjectBridge
