import ObjectBridge.Text.Quoted
import ObjectBridge.Value.Basic

/-!
# Causes of failure

Each layer of the bridge has its own causes: decoding native arguments, handles,
dispatch, native text and options.  A cause says what went wrong; its wording is
in one function, `message`.
-/

namespace ObjectBridge

/-- Why a native argument list cannot be decoded. -/
inductive MarshalError where
  /-- The tag stands for no kind.  The position is unknown when a tag is looked
  at on its own. -/
  | unknownTag (index : Option Nat) (tag : Int32)
  | nullValue (index : Nat) (kind : Kind)
  | negativeCount (count : Int32)
  | nullBuffers (count : Int32)
deriving DecidableEq, Repr

namespace MarshalError

/-- The wording of a cause. -/
def message : MarshalError → String
  | unknownTag none tag => s!"Unknown argument type tag {tag.toInt}"
  | unknownTag (some index) tag => s!"Unknown argument type tag {tag.toInt} at position {index}"
  | nullValue index kind => s!"Null value address for {kind.name} argument at position {index}"
  | negativeCount count => s!"Invalid argument count {count.toInt}"
  | nullBuffers count => s!"Null argument buffers for {count.toInt} argument(s)"

end MarshalError

/-- Why a token does not lead to an object. -/
inductive HandleError where
  /-- The token was never issued, was released, or is zero. -/
  | invalid (token : UInt64)
  /-- The token tracks an object that has been reclaimed. -/
  | collected (token : UInt64)
  | exhausted (live : Nat)
deriving DecidableEq, Repr

namespace HandleError

/-- The wording of a cause. -/
def message : HandleError → String
  | invalid token => s!"Invalid object handle {hexText token.toNat}"
  | collected token => s!"Object behind weak handle {hexText token.toNat} has been collected"
  | exhausted live => s!"Handle table exhausted ({live} live handles)"

end HandleError

/-- Why no body of a type answers a call. -/
inductive DispatchError where
  | missingConstructor (typeName : String) (arity : Nat)
  /-- Several constructors fit the arguments equally well; their signatures are
  the candidates. -/
  | ambiguousMatch (typeName : String) (candidates : List String)
  | missingMethod (typeName : String) (method : String) (arity : Nat)
  | argumentMismatch (target : String) (index : Nat) (expected got : Kind)
deriving DecidableEq, Repr

namespace DispatchError

/-- The wording of a cause. -/
def message : DispatchError → String
  | missingConstructor typeName arity =>
      s!"No constructor on '{typeName}' accepts {arity} argument(s)"
  | ambiguousMatch typeName candidates =>
      s!"Ambiguous constructor call on '{typeName}': {Text.quoteList candidates}"
  | missingMethod typeName method arity =>
      s!"Method '{method}' with {arity} parameter(s) not found on '{typeName}'"
  | argumentMismatch target index expected got =>
      s!"Argument {index} of {target}: expected {expected.name}, got {got.name}"

end DispatchError

/-- Why a native string cannot be read as text. -/
inductive InteropError where
  | nullString
  | invalidUtf8 (reason : String)
deriving DecidableEq, Repr

namespace InteropError

/-- The wording of a cause. -/
def message : InteropError → String
  | nullString => "Null string reference"
  | invalidUtf8 reason => s!"Invalid UTF-8 in interop string: {reason}"

end InteropError

/-- Why options cannot be loaded. -/
inductive ConfigError where
  | unreadable
  | malformed
  | outOfRange (reason : String)
deriving DecidableEq, Repr

namespace ConfigError

/-- The wording of a cause.  What the file system or the document reader would
add is not part of it. -/
def message : ConfigError → String
  | unreadable => "Failed to read config file"
  | malformed => "Failed to parse config"
  | outOfRange reason => s!"Invalid config: {reason}"

end ConfigError

end ObjectBridge
