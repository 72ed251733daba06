import ObjectBridge.Error.Fault
import ObjectBridge.Handle.Token
import ObjectBridge.Native.Pack
import ObjectBridge.Text.Interop

/-!
# Creation requests

A host asks for an object by the name of its type, the mode of the handle and an
argument list.  A request without buffers asks for the constructor without
parameters, whatever its count says.
-/

namespace ObjectBridge

/-- A request as the host passes it. -/
structure CreateInfo where
  typeName : InteropString
  weak : Bool
  buffers : ArgumentBuffers
deriving DecidableEq, Repr

/-- A request that was read. -/
structure CreateRequest where
  typeName : String
  mode : HandleMode
  arguments : List Value
deriving DecidableEq, Repr

namespace CreateInfo

/-- The request for an object with packed arguments. -/
def ofPack (typeName : InteropString) (mode : HandleMode) (pack : ArgumentPack) : CreateInfo where
  typeName := typeName
  weak := mode == .weak
  buffers := pack.buffers

/-- Whether one of the buffers is missing. -/
def lacksBuffers (info : CreateInfo) : Bool :=
  info.buffers.tags.isNone || info.buffers.addresses.isNone

/-- The arguments of a request. -/
def arguments (memory : Memory) (info : CreateInfo) : Except MarshalError (List Value) :=
  if info.lacksBuffers then .ok [] else info.buffers.decode memory

/-- Whether a request names arguments but has no buffers for them. -/
def dropsArguments (info : CreateInfo) : Bool :=
  info.lacksBuffers && 0 < info.buffers.count

end CreateInfo

/-- Read a request; a missing one is a null pointer.  The name is read before the
arguments. -/
def CreateRequest.read (memory : Memory) : Option CreateInfo → Except BridgeError CreateRequest
  | none => .error .nullRequest
  | some info => do
      let typeName ← info.typeName.text.mapError .interop
      let arguments ← (info.arguments memory).mapError .marshal
      return ⟨typeName, .ofWeak info.weak, arguments⟩

end ObjectBridge
