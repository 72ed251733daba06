import ObjectBridge.Bridge.Reports
import ObjectBridge.Heap.Store
import ObjectBridge.Options.Basic
import ObjectBridge.Reflect.Declaration
import ObjectBridge.Reflect.Dispatch

/-!
# The bridge

A bridge is its options, the types it knows, the native functions published to
it, its store, and its reports.  The operations on it are functions on this one
value; those that run bodies are in `ObjectBridge.Bridge.Run`.
-/

namespace ObjectBridge

/-- The state of a bridge. -/
structure Bridge where
  options : BridgeOptions
  registry : TypeRegistry
  calls : CallTable
  store : Store
  reports : ReportDesk
  /-- How many numbers bodies have drawn. -/
  drawn : Nat

namespace Bridge

/-- A bridge without objects. -/
def new (options : BridgeOptions) (registry : TypeRegistry) : Bridge where
  options := options
  registry := registry
  calls := CallTable.empty
  store := Store.empty options.gcThreshold
  reports := ReportDesk.empty
  drawn := 0

/-- Tell an event. -/
def tell (bridge : Bridge) (event : Event) : Bridge :=
  { bridge with store := bridge.store.tell event }

/-- Tell events in order. -/
def tellAll (bridge : Bridge) (events : List Event) : Bridge :=
  events.foldl tell bridge

/-! ## Objects -/

/-- Release a handle. -/
def destroy (bridge : Bridge) (token : Token) : Except BridgeError Unit × Bridge :=
  match bridge.store.release token with
  | .ok store => (.ok (), { bridge with store })
  | .error cause => (.error (.handle cause), bridge)

/-- The object that a token leads to. -/
def resolve (bridge : Bridge) (token : Token) : Except BridgeError HeapObject :=
  (bridge.store.resolve token).mapError .handle

/-- Read a native word as a token; zero is none. -/
def tokenOfRaw (raw : UInt64) : Except BridgeError Token :=
  match Token.ofRaw? raw with
  | some token => .ok token
  | none => .error (.handle (.invalid raw))

/-- Collect garbage. -/
def collect (bridge : Bridge) : CollectSummary × Bridge :=
  let (summary, store) := bridge.store.collect
  (summary, { bridge with store })

/-- The number of live handles. -/
def liveHandles (bridge : Bridge) : Nat := bridge.store.handles.live

/-- The books of the heap. -/
def statistics (bridge : Bridge) : HeapStatistics := bridge.store.heap.statistics

/-! ## Modules -/

/-- Put a declared module together. -/
def declare (bridge : Bridge) (declaration : ModuleDeclaration) : TypeModule × Bridge :=
  (declaration.toModule, bridge.tellAll declaration.skipped)

/-- Load a module into a context. -/
def load (bridge : Bridge) (context : String) (module : TypeModule) : LoadStatus × Bridge :=
  let shadowed := (bridge.registry.shadowedBy context module).map fun name =>
    Event.typeShadowed name module.fullName
  let (status, registry) := bridge.registry.load context module
  let refused := if status = .success then [] else [Event.moduleRefused module.fullName status]
  (status, { bridge with registry }.tellAll (shadowed ++ refused))

/-- Publish the native functions of a module, and say how many there are. -/
def upload (bridge : Bridge) (module : TypeModule) : Nat × Bridge :=
  let replaced := (bridge.calls.replacedBy module.calls).map Event.callReplaced
  let count := module.calls.length
  (count, { bridge with calls := bridge.calls.upload module.calls }.tellAll
    (replaced ++ [Event.callsUploaded count module.fullName]))

/-- What listing the contexts of a registry tells. -/
def inventory (contexts : List ContextSummary) : List Event :=
  contexts.flatMap fun context =>
    Event.contextListed context.name :: Event.modulesCounted context.modules.length ::
      context.modules.map Event.moduleListed

/-- List the contexts and their modules in the log. -/
def diagnose (bridge : Bridge) : List ContextSummary × Bridge :=
  (bridge.registry.contexts, bridge.tellAll (inventory bridge.registry.contexts))

/-! ## Reports -/

/-- Register a listener, or none.  The answer is whether one was registered
before. -/
def setListener (bridge : Bridge) (listener : Option Listener) : Bool × Bridge :=
  (bridge.reports.isWatched, { bridge with reports := bridge.reports.register listener })

/-- Report a failure.  The answer is whether a listener received it. -/
def report (bridge : Bridge) (failure : Failure) : Bool × Bridge :=
  if bridge.reports.isWatched then
    (true, { bridge with reports := bridge.reports.deliver failure })
  else
    (false, bridge.tell (.faultDropped failure))

/-- What became of an exported operation: an answer, an error, or a panic outside
any body. -/
inductive Outcome (α : Type) where
  | ok (answer : α)
  | failed (error : BridgeError)
  | panicked (payload : PanicPayload)

/-- The outcome of an operation that does not panic. -/
def Outcome.ofExcept {α : Type} : Except BridgeError α → Outcome α
  | .ok answer => .ok answer
  | .error error => .failed error

/-- Log and report the error of an exported operation. -/
def fail (bridge : Bridge) (site : String) (error : BridgeError) : Bridge :=
  ((bridge.tell (.exportFailed site error)).report (.bridge error)).2

/-- Answer an exported operation: with its own answer, or with a fallback after
reporting why there is none. -/
def guarded {α : Type} (bridge : Bridge) (site : String) (fallback : α) :
    Outcome α → α × Bridge
  | .ok answer => (answer, bridge)
  | .failed error => (fallback, bridge.fail site error)
  | .panicked payload => (fallback, bridge.fail site (.panic site payload.message))

/-! ## Dumps -/

/-- The text of options in diagnostic dumps. -/
def dumpOptions (options : BridgeOptions) : String :=
  "BridgeOptions \x7b gc_threshold: " ++ toString options.gcThreshold ++
    ", handle_capacity: " ++ toString options.handleCapacity ++
    ", log_filter: " ++ Text.quote options.logFilter ++
    ", diagnostics: " ++ truthText options.diagnostics ++ " \x7d"

/-- The text of a bridge in diagnostic dumps. -/
def dump (bridge : Bridge) : String :=
  "Bridge \x7b options: " ++ dumpOptions bridge.options ++
    ", handles: " ++ bridge.store.handles.dump ++
    ", exceptions: " ++ bridge.reports.dump ++ ", .. \x7d"

end Bridge

end ObjectBridge
