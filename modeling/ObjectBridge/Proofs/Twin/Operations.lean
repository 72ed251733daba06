import ObjectBridge.Proofs.Twin.Runs

/-!
# Operations that differ in collections

Two lists of operations that differ only in collections, on bridges that may differ
in their thresholds and in the collections of their bodies, get the same responses
and leave the same states behind all handles, as long as no weak handle is issued.
-/

namespace ObjectBridge

namespace Operation

/-- Lists of operations that differ only in collections. -/
inductive SameButCollections : List Operation → List Operation → Prop
  | nil : SameButCollections [] []
  | call (asked : HostCall) {rest other : List Operation} :
      SameButCollections rest other →
      SameButCollections (.call asked :: rest) (.call asked :: other)
  | collectLeft {rest other : List Operation} :
      SameButCollections rest other → SameButCollections (collect :: rest) other
  | collectRight {rest other : List Operation} :
      SameButCollections rest other → SameButCollections rest (collect :: other)

end Operation

/-! ## Exported operations -/

private theorem Bridge.Twin.fail {first second : Bridge} (twin : first.Twin second)
    (site : String) (error : BridgeError) :
    (first.fail site error).Twin (second.fail site error) := by
  have told := twin.tell (.exportFailed site error)
  simp only [Bridge.fail, Bridge.report, told.reports_eq]
  split
  · exact ⟨told.registry, told.calls_eq, told.store, rfl, told.drawn_eq⟩
  · exact told.tell _

private theorem blind_answer {α : Type} (site : String) (fallback : α)
    (outcome : Except BridgeError α) :
    Run.Blind (Bridge.answer site fallback outcome) (Bridge.answer site fallback outcome) := by
  refine .modifyGet (fun bridge => ?_) fun twin => ?_
  · cases outcome with
    | ok answer => exact ⟨#[], (Array.append_empty).symm⟩
    | error error =>
        obtain ⟨events, storeEq⟩ := bridge.fail_store site error
        exact ⟨events, congrArg Store.journal storeEq⟩
  · cases outcome with
    | ok answer => exact ⟨rfl, twin⟩
    | error error => exact ⟨rfl, twin.fail site error⟩

private theorem Bridge.Twin.setListener {first second : Bridge} (twin : first.Twin second)
    (listener : Option Listener) :
    (first.setListener listener).1 = (second.setListener listener).1 ∧
      (first.setListener listener).2.Twin (second.setListener listener).2 := by
  simp only [Bridge.setListener, twin.reports_eq]
  exact ⟨trivial, twin.registry, twin.calls_eq, twin.store, rfl, twin.drawn_eq⟩

/-- Calls of a host get the same responses from twins. -/
theorem Services.Blind.closed {services : Services} (blind : services.Blind) :
    services.Closed fun _ run => run.Blind run where
  pure := .pure
  bind := .bind
  create := blind.create
  invoke := blind.invoke
  destroy := blind_destroy
  tell event := .modifyGet (fun _ => ⟨#[event], rfl⟩) fun twin => ⟨rfl, twin.tell event⟩
  answer := blind_answer
  setListener listener :=
    .modifyGet (fun _ => ⟨#[], (Array.append_empty).symm⟩) fun twin => twin.setListener listener

/-! ## Runs of a host -/

/-- Bridges without objects are twins if the types that they know are the same but for
collections. -/
theorem Bridge.twin_new {registry other : TypeRegistry}
    (same : registry.SameButCollections other) (options otherOptions : BridgeOptions)
    (calls : CallTable) :
    ({ new options registry with calls } : Bridge).Twin { new otherOptions other with calls } where
  registry := same
  calls_eq := rfl
  store := Store.twin_empty options.gcThreshold otherOptions.gcThreshold
  reports_eq := rfl
  drawn_eq := rfl

namespace Operation

variable {services : Services} {operations others : List Operation}

/-- Operations that differ only in collections get the same responses from twins. -/
theorem SameButCollections.blind (blind : services.Blind)
    (same : SameButCollections operations others) :
    Run.Blind (performAll services operations) (performAll services others) := by
  induction same with
  | nil => exact .pure _
  | call asked _ ih =>
      exact (blind.closed.perform asked).bind fun response => ih.bind fun responses => .pure _
  | collectLeft _ ih => exact .collect_left fun _ => ih
  | collectRight _ ih => exact .collect_right fun _ => ih

/-- Collections cannot be observed through owning handles.  Whatever the thresholds of
two bridges, operations that differ only in collections, on types that do as well, get
the same responses, make the same reports, and leave the same states behind all tokens,
as long as no weak handle is issued. -/
theorem collections_unobservable {registry other : TypeRegistry} {depth : Nat}
    {responses : List Response} {after : Bridge}
    (registries : registry.SameButCollections other)
    (same : SameButCollections operations others) (options otherOptions : BridgeOptions)
    (calls : CallTable)
    (performed : performAll (Bridge.services depth) operations
      { Bridge.new options registry with calls } = .ok (responses, after))
    (owning : after.OwningOnly) :
    ∃ last,
      performAll (Bridge.services depth) others
        { Bridge.new otherOptions other with calls } = .ok (responses, last) ∧
      last.reports = after.reports ∧
      ∀ token, (last.resolve token).map (·.state) = (after.resolve token).map (·.state) := by
  have start := Bridge.twin_new registries options otherOptions calls
  obtain ⟨last, otherPerformed, twin⟩ :=
    (same.blind (Bridge.services_blind depth)).twin start performed owning
  refine ⟨last, otherPerformed, twin.reports_eq.symm, fun token => ?_⟩
  have alike := twin.resolve token
  generalize after.resolve token = left at alike ⊢
  generalize last.resolve token = right at alike ⊢
  cases alike with
  | error cause => rfl
  | ok objects => exact congrArg Except.ok objects.state_eq.symm

-- Runs are compared by what the host is told.
deriving instance DecidableEq for Response

/-- A type whose method releases the first handle that a table issues, may collect, and
makes a new object. -/
def renewing (collects : Bool) : TypeDescriptor where
  name := "Cell"
  constructors := [⟨[], fun _ => .done ⟨"Cell", []⟩⟩]
  methods := [⟨"Renew", [], fun _ _ => .destroy (.ofSlot 0 0) fun _ =>
    if collects then .collect fun _ => .create "Cell" [] .owning fun _ => .done none
    else .create "Cell" [] .owning fun _ => .done none⟩]

private theorem renewing_same : TypeRegistry.SameButCollections
    ⟨[], [("Cell", renewing true)]⟩ ⟨[], [("Cell", renewing false)]⟩ := by
  have types : (renewing true).SameButCollections (renewing false) :=
    ⟨rfl, .cons ⟨rfl, fun _ => .done _⟩ .nil,
      .cons ⟨rfl, rfl, fun _ _ => .destroy _ fun _ => .collectLeft fun _ =>
        .create _ _ _ fun _ => .done _⟩ .nil⟩
  intro name
  simp only [TypeRegistry.findType?, List.lookup_cons, List.lookup_nil]
  split
  · exact .some types
  · exact .none

/-- An object that lets go of itself is replaced alike whether it is collected meanwhile
or not. -/
theorem collections_unobservable_renewing :
    let create : HostCall := .create "Cell" [] .owning
    let renew : HostCall := .invoke (.ofSlot 0 0) "Renew" []
    ∃ last,
      performAll (Bridge.services 2) [.call create, .call renew]
          (.new .defaults ⟨[], [("Cell", renewing false)]⟩) =
        .ok ([.created (.ok (some (.ofSlot 0 0))), .invoked (.ok none)], last) ∧
      (last.resolve (.ofSlot 0 1)).map (·.state) = .ok ⟨"Cell", []⟩ := by
  intro create renew
  have same : SameButCollections [.call create, .collect, .call renew, .collect]
      [.call create, .call renew] :=
    .call _ (.collectLeft (.call _ (.collectLeft .nil)))
  let eager : BridgeOptions := { BridgeOptions.defaults with gcThreshold := 1 }
  let eagerStart : Bridge := .new eager ⟨[], [("Cell", renewing true)]⟩
  have seen : (performAll (Bridge.services 2)
      [.call create, .collect, .call renew, .collect] eagerStart).map (fun (responses, after) =>
        (responses, after.store.journal.all (!·.issuesWeak),
          (after.resolve (.ofSlot 0 1)).map (·.state))) =
      .ok ([.created (.ok (some (.ofSlot 0 0))), .invoked (.ok none)], true,
        .ok ⟨"Cell", []⟩) := by
    decide +kernel
  cases performed : performAll (Bridge.services 2)
      [.call create, .collect, .call renew, .collect] eagerStart with
  | error halt =>
      rw [performed] at seen
      cases seen
  | ok outcome =>
      rcases outcome with ⟨responses, after⟩
      rw [performed] at seen
      simp only [Except.map, Except.ok.injEq, Prod.mk.injEq] at seen
      obtain ⟨rfl, silent, state⟩ := seen
      have owning : after.OwningOnly := by
        intro event member
        simpa using Array.all_eq_true'.mp silent event member
      obtain ⟨last, otherPerformed, _, states⟩ :=
        collections_unobservable renewing_same same eager .defaults .empty performed owning
      exact ⟨last, otherPerformed, (states _).trans state⟩

end Operation

end ObjectBridge
