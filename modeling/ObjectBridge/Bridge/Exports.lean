import ObjectBridge.Bridge.Run
import ObjectBridge.Native.Request

/-!
# Exported operations

The operations that native code calls.  Each takes native arguments, and its
answer is a plain word or nothing: where the operation fails, the failure is
reported to the registered listener and the answer is a fallback.

A process has one bridge.  Unless the host installs one first, it is created on
first use, with the options that the environment points to or with the defaults
if these cannot be loaded.
-/

namespace ObjectBridge

/-- The version of the bridge. -/
def version : String := "0.1.0"

namespace Bridge

/-- The bridge that is created on first use, whatever reads documents. -/
def ofEnvironmentWith (read? : Document.Reader) (source : OptionSource) : Bridge :=
  match BridgeOptions.ofSourceWith read? source with
  | .ok options => new options TypeRegistry.empty
  | .error cause => (new .defaults TypeRegistry.empty).tell (.configurationIgnored cause)

/-- The bridge that is created on first use. -/
def ofEnvironment : OptionSource → Bridge :=
  ofEnvironmentWith Document.read?

/-- Install a bridge for the process.  A bridge that is in place stays, and the
new one is handed back. -/
def install (current : Option Bridge) (offered : Bridge) : Except Bridge Bridge :=
  match current with
  | none => .ok offered
  | some _ => .error offered

/-- Answer an exported operation. -/
def answer {α : Type} (site : String) (fallback : α) (outcome : Except BridgeError α) : Run α :=
  modifyGet (·.guarded site fallback (.ofExcept outcome))

/-- Read a creation request. -/
def readRequest (memory : Memory) (info : Option CreateInfo) :
    Run (Except BridgeError CreateRequest) := do
  let request := CreateRequest.read memory info
  match info, request with
  | some info, .ok request =>
      if info.dropsArguments then
        modify (·.tell (.buffersMissing request.typeName info.buffers.count))
  | _, _ => pure ()
  return request

/-- Create the object that a request asks for. -/
def createRequested (request : CreateRequest) : Run (Except BridgeError (Option Token)) :=
  create request.typeName request.arguments request.mode

/-- The word for a token; none is zero. -/
def rawToken : Option Token → UInt64
  | some token => token.raw
  | none => 0

/-- Log which modules are loaded, if the options ask for it.  The host may have a
log already. -/
def exportStart (hasLogger : Bool) : Run Unit := do
  if hasLogger then
    modify (·.tell .loggerPresent)
  if (← get).options.diagnostics then
    modify fun bridge => bridge.diagnose.2
  answer "tether_initialize" () (.ok ())

/-- Register a listener for reports, or none. -/
def exportSetListener (listener : Option Listener) : Run Unit := do
  let wasSet ← modifyGet (·.setListener listener)
  modify (·.tell (.callbackChanged listener.isSome wasSet))

/-- Create the object that a native request asks for.  The answer is zero if the
type is unknown or the creation fails. -/
def exportCreateWith (services : Services) (memory : Memory) (info : Option CreateInfo) :
    Run UInt64 := do
  let outcome ←
    match ← readRequest memory info with
    | .error error => pure (.error error)
    | .ok request => services.create request.typeName request.arguments request.mode
  answer "tether_create_object" 0 (outcome.map rawToken)

/-- Create an object. -/
def exportCreate (memory : Memory) (info : Option CreateInfo) : Run UInt64 :=
  exportCreateWith (services callDepth) memory info

/-- Release a handle. -/
def exportDestroy (raw : UInt64) : Run Unit := do
  let outcome ←
    match tokenOfRaw raw with
    | .error error => pure (.error error)
    | .ok token => modifyGet (·.destroy token)
  answer "tether_destroy_object" () outcome

/-- The token, the name and the arguments of a native call, read in this order. -/
def readCall (memory : Memory) (raw : UInt64) (method : InteropString)
    (buffers : ArgumentBuffers) : Except BridgeError (Token × String × List Value) := do
  let token ← tokenOfRaw raw
  let name ← method.text.mapError .interop
  let arguments ← (buffers.decode memory).mapError .marshal
  return (token, name, arguments)

/-- Make a native call.  What the method returns is dropped. -/
def exportInvokeWith (services : Services) (memory : Memory) (raw : UInt64)
    (method : InteropString) (buffers : ArgumentBuffers) : Run Unit := do
  let outcome ←
    match readCall memory raw method buffers with
    | .error error => pure (.error error)
    | .ok (token, name, arguments) => services.invoke token name arguments
  answer "tether_invoke_method" () (outcome.map fun _ => ())

/-- Call a method. -/
def exportInvoke (memory : Memory) (raw : UInt64) (method : InteropString)
    (buffers : ArgumentBuffers) : Run Unit :=
  exportInvokeWith (services callDepth) memory raw method buffers

end Bridge

end ObjectBridge
