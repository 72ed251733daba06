import ObjectBridge.Error.Cause
import ObjectBridge.Options.Document
import ObjectBridge.Text.Blank
import ObjectBridge.Text.Utf8

/-!
# Options

The options of a bridge, their defaults, and the ways to load them: from a text,
from a file, or from the file that the environment names.  Options that are
loaded are those of the document in place of the defaults, and they are in range.
-/

namespace ObjectBridge

/-- The options of a bridge. -/
structure BridgeOptions where
  /-- Allocations between two collections; zero switches automatic collections
  off. -/
  gcThreshold : Nat
  /-- Slots that the handle table makes room for. -/
  handleCapacity : Nat
  /-- What the log shows. -/
  logFilter : String
  /-- Whether the loaded modules are listed at the start. -/
  diagnostics : Bool
deriving DecidableEq, Repr

/-- What is found where a document is expected. -/
inductive OptionSource where
  /-- No file is named. -/
  | unset
  /-- The named file does not exist. -/
  | absent
  /-- The octets of the named file. -/
  | file (octets : List UInt8)
deriving DecidableEq, Repr

namespace BridgeOptions

/-- The most slots that a table makes room for. -/
def maxHandleCapacity : Nat := 1 <<< 20

/-- The options that hold unless others are given. -/
def defaults : BridgeOptions := ⟨1024, 64, "warn", true⟩

/-- Accept options that are in range.  The capacity is looked at first. -/
def validate (options : BridgeOptions) : Except ConfigError BridgeOptions :=
  if maxHandleCapacity < options.handleCapacity then
    .error (.outOfRange
      s!"handle_capacity {options.handleCapacity} exceeds the maximum of {maxHandleCapacity}")
  else if Text.isBlank options.logFilter then
    .error (.outOfRange "log_filter cannot be empty")
  else .ok options

/-- Set the option that a key names, if there is one and the setting has its
type. -/
def set? (options : BridgeOptions) (key : String) (setting : Document.Setting) :
    Option BridgeOptions :=
  match key, setting with
  | "gc_threshold", .number (.ofNat value) => some { options with gcThreshold := value }
  | "handle_capacity", .number (.ofNat value) => some { options with handleCapacity := value }
  | "log_filter", .text value => some { options with logFilter := value }
  | "diagnostics", .truth value => some { options with diagnostics := value }
  | _, _ => none

/-- Set the options that entries name. -/
def setAll? (options : BridgeOptions) : List (String × Document.Setting) → Option BridgeOptions
  | [] => some options
  | (key, setting) :: rest => (options.set? key setting).bind (setAll? · rest)

/-! ## Loading

What reads documents is a parameter of loading. -/

/-- Load options from the text of a document. -/
def ofTextWith (read? : Document.Reader) (document : String) : Except ConfigError BridgeOptions :=
  match (read? document).bind defaults.setAll? with
  | some options => options.validate
  | none => .error .malformed

/-- Load options from the octets of a file, or from no file. -/
def ofFileWith (read? : Document.Reader) :
    Option (List UInt8) → Except ConfigError BridgeOptions
  | none => .error .unreadable
  | some octets =>
      match Utf8.decode octets with
      | .ok characters => ofTextWith read? (String.ofList characters)
      | .error _ => .error .unreadable

/-- Load options from where the environment points. -/
def ofSourceWith (read? : Document.Reader) : OptionSource → Except ConfigError BridgeOptions
  | .unset => .ok defaults
  | .absent => ofFileWith read? none
  | .file octets => ofFileWith read? (some octets)

/-- Load options from the text of an option document. -/
def ofText : String → Except ConfigError BridgeOptions :=
  ofTextWith Document.read?

/-- Load options from the octets of an option document, or from no file. -/
def ofFile : Option (List UInt8) → Except ConfigError BridgeOptions :=
  ofFileWith Document.read?

/-- Load options from the option document that the environment points to. -/
def ofSource : OptionSource → Except ConfigError BridgeOptions :=
  ofSourceWith Document.read?

end BridgeOptions

/-- The text of a truth value in diagnostic dumps. -/
def truthText (truth : Bool) : String :=
  if truth then "true" else "false"

end ObjectBridge
