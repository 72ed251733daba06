import ObjectBridge.Error.Cause

/-!
# Faults and reports

A fault is what a reflected body raises.  It may name what it was raised because
of: another fault, a plain text, or an error of the bridge.  An error of the
bridge in turn may be that a body raised a fault.  So faults and errors form
chains, and a report shows the whole chain: the error itself, then each cause
once, from the outermost to the innermost.
-/

namespace ObjectBridge

mutual

/-- What a reflected body raises. -/
inductive Fault where
  | plain (message : String)
  | because (message : String) (source : Failure)

/-- Anything that can be reported or named as a source. -/
inductive Failure where
  | fault (raised : Fault)
  /-- A text that stands for an error without further cause. -/
  | text (message : String)
  | bridge (error : BridgeError)

/-- Why an operation of the bridge failed. -/
inductive BridgeError where
  | marshal (cause : MarshalError)
  | handle (cause : HandleError)
  | dispatch (cause : DispatchError)
  | interop (cause : InteropError)
  | config (cause : ConfigError)
  /-- The body of `target` raised a fault. -/
  | invocation (target : String) (raised : Fault)
  /-- An exported operation panicked outside any body. -/
  | panic (site message : String)
  | nullRequest

end

deriving instance DecidableEq for Fault, Failure, BridgeError

/-- What a panicking body leaves behind: a text, or something that is none. -/
inductive PanicPayload where
  | text (message : String)
  | other
deriving DecidableEq, Repr

/-- The text of a panic. -/
def PanicPayload.message : PanicPayload → String
  | text message => message
  | other => "Unknown panic"

/-- The text of a fault, its source apart. -/
def Fault.message : Fault → String
  | plain message => message
  | because message _ => message

/-- The fault that a panicking body counts as having raised. -/
def Fault.ofPanic (payload : PanicPayload) : Fault :=
  .plain s!"panicked: {payload.message}"

/-- The text of an error.  An error of one layer has the wording of its cause. -/
def BridgeError.message : BridgeError → String
  | marshal cause => cause.message
  | handle cause => cause.message
  | dispatch cause => cause.message
  | interop cause => cause.message
  | config cause => cause.message
  | invocation target _ => s!"Exception has been thrown by the target of an invocation: {target}"
  | panic site message => s!"Panic in {site}: {message}"
  | nullRequest => "Object creation request is null"

/-- The text of a failure. -/
def Failure.message : Failure → String
  | .fault raised => raised.message
  | .text message => message
  | .bridge error => error.message

mutual

/-- The texts of the causes of a fault, outermost first. -/
def Fault.causes : Fault → List String
  | .plain _ => []
  | .because _ source => source.message :: Failure.causes source

/-- The texts of the causes of a failure, outermost first. -/
def Failure.causes : Failure → List String
  | .fault raised => Fault.causes raised
  | .text _ => []
  | .bridge error => BridgeError.causes error

/-- The texts of the causes of an error, outermost first: of all errors only an
invocation has one, the fault that the body raised. -/
def BridgeError.causes : BridgeError → List String
  | .invocation _ raised => raised.message :: Fault.causes raised
  | .marshal _ | .handle _ | .dispatch _ | .interop _ | .config _ | .panic _ _ | .nullRequest => []

end

/-- One line per cause, numbered from zero. -/
def causeLines (causes : List String) : String :=
  String.join (causes.zipIdx.map fun (text, depth) => s!"\n    {depth}: {text}")

/-- A failure as it is shown to the host. -/
def Failure.report (failure : Failure) : String :=
  match failure.causes with
  | [] => failure.message
  | causes => failure.message ++ "\nCaused by:" ++ causeLines causes

/-- A fault as it is shown to the host. -/
def Fault.report (fault : Fault) : String := (Failure.fault fault).report

/-- An error as it is shown to the host. -/
def BridgeError.report (error : BridgeError) : String := (Failure.bridge error).report

end ObjectBridge
