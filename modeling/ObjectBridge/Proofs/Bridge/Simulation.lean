import ObjectBridge.Proofs.Bridge.Natives
import ObjectBridge.Proofs.Native.Packs

/-!
# Native calls do what host calls do

A host may call a bridge directly or have its values packed and call an exported
operation.  It comes to the same: the packed values are read as they are, so the
same creation or call is made, and all that the exported operation adds is the report
of an error.
-/

namespace ObjectBridge.Bridge

/-! ## Simulation -/

/-- A native call that does what another call does: it leaves the same bridge and
answers with its result, or reports its error and answers with a fallback, or halts as
it does. -/
structure Simulates {α β : Type} (site : String) (fallback : β) (view : α → β)
    (called : Run (Except BridgeError α)) (native : Run β) : Prop where
  ok : ∀ {before after : Bridge} {result : α},
    called before = .ok (.ok result, after) → native before = .ok (view result, after)
  error : ∀ {before after : Bridge} {error : BridgeError},
    called before = .ok (.error error, after) →
      native before = .ok (fallback, after.fail site error)
  halt : ∀ {before : Bridge} {halt : Halt},
    called before = .error halt → native before = .error halt

/-- Answering simulates what is answered. -/
theorem simulates_answer {α β : Type} (site : String) (fallback : β) (view : α → β)
    (called : Run (Except BridgeError α)) :
    Simulates site fallback view called
      (called >>= fun outcome => answer site fallback (outcome.map view)) where
  ok calledOk := Run.bind_eq_ok_iff.mpr ⟨_, _, calledOk, rfl⟩
  error calledError := Run.bind_eq_ok_iff.mpr ⟨_, _, calledError, rfl⟩
  halt calledHalts := by
    simp only [bind, StateT.bind, calledHalts, Except.bind]

/-! ## Packed values -/

variable {services : Services} {name : String} {values : List Value}

/-- A request with packed values names no arguments that it has no buffers for. -/
theorem dropsArguments_ofPack (typeName : InteropString) (mode : HandleMode)
    (values : List Value) :
    (CreateInfo.ofPack typeName mode (.ofValues values)).dropsArguments = false := by
  rw [CreateInfo.dropsArguments, ArgumentPack.lacksBuffers_ofPack_ofValues]
  cases values with
  | nil => rfl
  | cons value rest => rfl

theorem readRequest_ofPack (nonzero : '\x00' ∉ name.toList) (mode : HandleMode)
    (few : values.length < 2 ^ 31) (outside : Memory) :
    readRequest ((ArgumentPack.ofValues values).memory outside)
        (some (.ofPack (.ofText name) mode (.ofValues values))) =
      pure (.ok ⟨name, mode, values⟩) := by
  have drops := dropsArguments_ofPack (.ofText name) mode values
  simp only [readRequest, CreateRequest.read_ofPack nonzero mode few outside, drops]
  rfl

theorem exportCreateWith_ofPack (nonzero : '\x00' ∉ name.toList) (mode : HandleMode)
    (few : values.length < 2 ^ 31) (outside : Memory) :
    exportCreateWith services ((ArgumentPack.ofValues values).memory outside)
        (some (.ofPack (.ofText name) mode (.ofValues values))) =
      (services.create name values mode >>= fun outcome =>
        answer "tether_create_object" 0 (outcome.map rawToken)) := by
  rw [exportCreateWith, readRequest_ofPack nonzero mode few outside, pure_bind]

/-- The word of a token is read as that token. -/
theorem tokenOfRaw_raw (token : Token) : tokenOfRaw token.raw = .ok token := by
  rw [tokenOfRaw, Token.ofRaw?, dif_pos token.raw_ne_zero]

theorem readCall_ofPack (nonzero : '\x00' ∉ name.toList) (few : values.length < 2 ^ 31)
    (outside : Memory) (token : Token) :
    readCall ((ArgumentPack.ofValues values).memory outside) token.raw (.ofText name)
      (ArgumentPack.ofValues values).buffers = .ok (token, name, values) := by
  rw [readCall, tokenOfRaw_raw, InteropString.text_ofText_of_notMem nonzero,
    ArgumentPack.decode_buffers_ofValues few outside]
  rfl

theorem exportInvokeWith_ofPack (nonzero : '\x00' ∉ name.toList) (few : values.length < 2 ^ 31)
    (outside : Memory) (token : Token) :
    exportInvokeWith services ((ArgumentPack.ofValues values).memory outside) token.raw
        (.ofText name) (ArgumentPack.ofValues values).buffers =
      (services.invoke token name values >>= fun outcome =>
        answer "tether_invoke_method" () (outcome.map fun _ => ())) := by
  rw [exportInvokeWith, readCall_ofPack nonzero few outside]

/-- Packed values, whether there are any or none, take the same way through the
exported operations as values take through the calls of a host.  What an error adds is
its own report, and nothing that concerns objects or handles. -/
theorem exports_simulate_calls (services : Services) (outside : Memory) {name : String}
    (nonzero : '\x00' ∉ name.toList) {values : List Value} (few : values.length < 2 ^ 31) :
    let pack := ArgumentPack.ofValues values
    (∀ mode, Simulates "tether_create_object" 0 rawToken (services.create name values mode)
      (exportCreateWith services (pack.memory outside)
        (some (.ofPack (.ofText name) mode pack)))) ∧
    (∀ raw, raw ≠ 0 → ∃ token, tokenOfRaw raw = .ok token ∧ token.raw = raw ∧
      Simulates "tether_invoke_method" () (fun _ => ()) (services.invoke token name values)
        (exportInvokeWith services (pack.memory outside) raw (.ofText name) pack.buffers)) ∧
    ∀ (bridge : Bridge) (site : String) (error : BridgeError),
      bridge.fail site error =
        { bridge with
          reports := bridge.reports.deliver (.bridge error)
          store := { bridge.store with
            journal := bridge.store.journal ++ bridge.reports.noticesOf site error } } := by
  intro pack
  refine ⟨?_, ?_, fail_eq⟩
  · intro mode
    rw [exportCreateWith_ofPack nonzero mode few outside]
    exact simulates_answer _ _ _ _
  · intro raw rawNonzero
    obtain ⟨token, rfl⟩ : ∃ token : Token, token.raw = raw := ⟨⟨raw, rawNonzero⟩, rfl⟩
    refine ⟨token, tokenOfRaw_raw token, rfl, ?_⟩
    rw [exportInvokeWith_ofPack nonzero few outside token]
    exact simulates_answer _ _ _ _

/-- A gauge is created from two packed values and answered with its token; from a pack of
none it is not, and the answer is zero. -/
theorem exports_simulate_calls_gauge :
    let bridge := Bridge.new .defaults ⟨[], [("Gauge", gauge)]⟩
    let native (values : List Value) : Run UInt64 :=
      exportCreateWith (Bridge.services 1) ((ArgumentPack.ofValues values).memory .blank)
        (some (.ofPack (.ofText "Gauge") .owning (.ofValues values)))
    (∃ after, native [.int 3, .bool true] bridge = .ok (1, after)) ∧
      native [] bridge = .ok (0, bridge.fail "tether_create_object"
        (.dispatch (.missingConstructor "Gauge" 0))) := by
  intro bridge native
  have nonzero : '\x00' ∉ "Gauge".toList := by decide +kernel
  obtain ⟨packed, _, _⟩ := exports_simulate_calls (Bridge.services 1) .blank nonzero
    (show [Value.int 3, .bool true].length < 2 ^ 31 by decide)
  obtain ⟨empty, _, _⟩ := exports_simulate_calls (Bridge.services 1) .blank nonzero
    (show ([] : List Value).length < 2 ^ 31 by decide)
  constructor
  · have ends :
        ((Bridge.services 1).create "Gauge" [.int 3, .bool true] .owning bridge).toOption.map
          (fun ended => ended.1.toOption.join) = some (some (.ofSlot 0 0)) := by
      decide +kernel
    cases created : (Bridge.services 1).create "Gauge" [.int 3, .bool true] .owning bridge with
    | error halt =>
        rw [created] at ends
        cases ends
    | ok ended =>
        rw [created] at ends
        rcases ended with ⟨_ | _ | token, after⟩
        · cases ends
        · cases ends
        · cases ends
          exact ⟨after, (packed .owning).ok created⟩
  · exact (empty .owning).error rfl

end ObjectBridge.Bridge
