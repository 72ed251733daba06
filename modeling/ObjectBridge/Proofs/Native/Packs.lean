import ObjectBridge.Native.Request
import ObjectBridge.Proofs.Native.Pushes
import ObjectBridge.Proofs.Text.Passage

/-!
# Packs are read back

A pack of values is decoded to these values, so a request with packed values asks for
them.  A pack of none has no buffers, which both ways of passing arguments take for no
arguments.
-/

namespace ObjectBridge

namespace ArgumentPack

theorem ofValues_eq (values : List Value) : ofValues values = ofPushes (values.map .value) := by
  rw [ofPushes, List.foldl_map]
  rfl

/-- A pack lacks its buffers exactly if it is a pack of none. -/
theorem lacksBuffers_ofPack_ofValues (typeName : InteropString) (mode : HandleMode)
    (values : List Value) :
    (CreateInfo.ofPack typeName mode (ofValues values)).lacksBuffers = values.isEmpty := by
  rw [ofValues_eq]
  cases values with
  | nil => rfl
  | cons value rest =>
      rw [CreateInfo.lacksBuffers, CreateInfo.ofPack, List.map_cons, buffers_ofPushes_cons]
      rfl

private theorem yields_values (memory : Memory) (values : List Value) :
    List.Forall₂ (Yields memory) (values.map .value) values := by
  induction values with
  | nil => exact .nil
  | cons value rest ih => exact .cons .value ih

/-- Decoding the buffers of a pack yields the values that it was made of. -/
theorem decode_buffers_ofValues {values : List Value} (few : values.length < 2 ^ 31)
    (outside : Memory) :
    (ofValues values).buffers.decode ((ofValues values).memory outside) = .ok values := by
  have fewPushes : (values.map Push.value).length < 2 ^ 31 := by rwa [List.length_map]
  rw [ofValues_eq, ArgumentBuffers.decode, ofBuffers_ofPushes fewPushes]
  exact (decode_ofPushes_eq_ok_iff (Nat.le_of_lt fewPushes) outside).mpr (yields_values _ _)

end ArgumentPack

/-- A request with packed values asks for these values, whether or not there are any. -/
theorem CreateInfo.arguments_ofPack (typeName : InteropString) (mode : HandleMode)
    {values : List Value} (few : values.length < 2 ^ 31) (outside : Memory) :
    (ofPack typeName mode (.ofValues values)).arguments
      ((ArgumentPack.ofValues values).memory outside) = .ok values := by
  rw [arguments, ArgumentPack.lacksBuffers_ofPack_ofValues]
  cases values with
  | nil => rfl
  | cons value rest => exact ArgumentPack.decode_buffers_ofValues few outside

/-- A request with packed values is read as its name, its mode and the values. -/
theorem CreateRequest.read_ofPack {typeName : String} (nonzero : '\x00' ∉ typeName.toList)
    (mode : HandleMode) {values : List Value} (few : values.length < 2 ^ 31)
    (outside : Memory) :
    CreateRequest.read ((ArgumentPack.ofValues values).memory outside)
        (some (.ofPack (.ofText typeName) mode (.ofValues values))) =
      .ok ⟨typeName, mode, values⟩ := by
  have nameEq : (CreateInfo.ofPack (.ofText typeName) mode (.ofValues values)).typeName.text =
      .ok typeName := InteropString.text_ofText_of_notMem nonzero
  have modeEq : HandleMode.ofWeak
      (CreateInfo.ofPack (.ofText typeName) mode (.ofValues values)).weak = mode := by
    cases mode <;> rfl
  rw [CreateRequest.read, nameEq, CreateInfo.arguments_ofPack _ mode few, modeEq]
  rfl

end ObjectBridge
