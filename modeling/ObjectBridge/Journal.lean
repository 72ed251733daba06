import ObjectBridge.Error.Fault
import ObjectBridge.Handle.Table
import ObjectBridge.Reflect.Registry

/-!
# The journal

What the bridge tells its host in passing.  An event says what happened; its
level and wording are derived from it.
-/

namespace ObjectBridge

/-- How much an event matters. -/
inductive Level where
  | error | warn | info | debug
deriving DecidableEq, Repr

/-- The name of a level in logs. -/
def Level.name : Level → String
  | error => "ERROR"
  | warn => "WARN"
  | info => "INFO"
  | debug => "DEBUG"

/-- Something worth telling. -/
inductive Event where
  | registered (mode : HandleMode) (token : Token) (typeName : String) (object : ObjectId)
  | released (token : Token)
  | reclaimed (collected survivors : Nat)
  | typeNotFound (typeName : String)
  | typeShadowed (typeName fullName : String)
  | moduleRefused (fullName : String) (status : LoadStatus)
  | callSkipped (name : String)
  | callReplaced (name : String)
  | callsUploaded (count : Nat) (fullName : String)
  /-- A request names arguments but has no buffers for them. -/
  | buffersMissing (typeName : String) (count : Int32)
  | contextListed (name : String)
  | modulesCounted (count : Nat)
  | moduleListed (summary : ModuleSummary)
  | exportFailed (site : String) (error : BridgeError)
  | faultDropped (failure : Failure)
  | callbackChanged (isSet wasSet : Bool)
  | loggerPresent
  | configurationIgnored (cause : ConfigError)

namespace Event

/-- How much an event matters. -/
def level : Event → Level
  | typeNotFound _ | typeShadowed _ _ | moduleRefused _ _ | callSkipped _
  | configurationIgnored _ => .warn
  | contextListed _ | modulesCounted _ | moduleListed _ => .info
  | registered _ _ _ _ | released _ | reclaimed _ _ | callReplaced _ | callsUploaded _ _
  | buffersMissing _ _ | exportFailed _ _ | faultDropped _ | callbackChanged _ _
  | loggerPresent => .debug

/-- The wording of an event, the tag in front of it apart. -/
def wording : Event → String
  | registered mode token typeName object =>
      s!"Registered {mode.name} handle {hexText token.raw.toNat} for {typeName} #{object.number}"
  | released token => s!"Released handle {hexText token.raw.toNat}"
  | reclaimed collected survivors =>
      s!"GC reclaimed {collected} object(s), {survivors} survive"
  | typeNotFound typeName => s!"Unable to find type '{typeName}'"
  | typeShadowed typeName fullName =>
      s!"Type '{typeName}' from '{fullName}' shadowed by an earlier module"
  | moduleRefused fullName status => s!"Module '{fullName}' not loaded: {status.name}"
  | callSkipped name => s!"Internal call '{name}' has a null entry point; skipped"
  | callReplaced name => s!"Internal call '{name}' replaced"
  | callsUploaded count fullName => s!"Uploaded {count} internal call(s) for '{fullName}'"
  | buffersMissing typeName count =>
      s!"{typeName} requested with {count.toInt} argument(s) but no buffers; " ++
        "using default constructor"
  | contextListed name => s!"Name: {name}"
  | modulesCounted count => s!"Assemblies: {count}"
  | moduleListed summary =>
      s!"\tName: {summary.fullName} ({summary.status.name}, {summary.types.length} type(s))"
  | exportFailed site error => s!"{site} failed: {error.message}"
  | faultDropped failure => s!"Dropping unobserved fault: {failure.message}"
  | callbackChanged isSet wasSet =>
      let now := if isSet then "set" else "cleared"
      let before := if wasSet then "set" else "unset"
      s!"Exception callback {now} (previously {before})"
  | loggerPresent => "Logger already installed"
  | configurationIgnored cause => s!"Ignoring configuration: {cause.message}"

/-- The text of an event in logs. -/
def text (event : Event) : String := "[tether] " ++ event.wording

end Event

/-- Events in the order in which they happened. -/
abbrev Journal := Array Event

end ObjectBridge
