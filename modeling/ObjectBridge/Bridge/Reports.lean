import ObjectBridge.Journal
import ObjectBridge.Text.Interop

/-!
# Delivering reports

A host may register one listener, which receives the report of every failure of
an exported operation.  A listener may act on the registration while it receives
a report: unregister itself, or put a successor in its place and report a fault
of its own, which the successor then receives.
-/

namespace ObjectBridge

/-- What a host registers to receive reports. -/
inductive Listener where
  /-- Records every report. -/
  | recorder (name : String)
  /-- Records one report and unregisters itself. -/
  | once (name : String)
  /-- Records one report, puts a successor in its place, and reports a fault. -/
  | handoff (name : String) (successor : Listener) (followUp : Fault)

/-- A report as its listener recorded it. -/
structure Delivery where
  listener : String
  text : String
deriving DecidableEq, Repr

/-- The registered listener and what was delivered so far. -/
structure ReportDesk where
  listener : Option Listener
  delivered : List Delivery

namespace ReportDesk

/-- The desk of a bridge that nothing was registered with. -/
def empty : ReportDesk := ⟨none, []⟩

/-- A text as a listener receives it: through a native string. -/
def received (text : String) : String :=
  String.ofList (InteropString.shielded text)

/-- What a listener records when it receives a text, and the listener registered
afterwards. -/
def receive : Listener → String → List Delivery × Option Listener
  | .recorder name, text => ([⟨name, received text⟩], some (.recorder name))
  | .once name, text => ([⟨name, received text⟩], none)
  | .handoff name successor followUp, text =>
      let (later, registered) := receive successor followUp.report
      (⟨name, received text⟩ :: later, registered)

/-- Register a listener, or none. -/
def register (desk : ReportDesk) (listener : Option Listener) : ReportDesk :=
  { desk with listener }

/-- Whether a listener is registered. -/
def isWatched (desk : ReportDesk) : Bool := desk.listener.isSome

/-- Deliver the report of a failure to the registered listener, if any. -/
def deliver (desk : ReportDesk) (failure : Failure) : ReportDesk :=
  match desk.listener with
  | none => desk
  | some listener =>
      let (deliveries, registered) := receive listener failure.report
      ⟨registered, desk.delivered ++ deliveries⟩

/-- The text of a desk in diagnostic dumps. -/
def dump (desk : ReportDesk) : String :=
  "ExceptionBridge \x7b registered: " ++ (if desk.isWatched then "true" else "false") ++ " \x7d"

end ReportDesk

end ObjectBridge
