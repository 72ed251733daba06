import ObjectBridge.Bridge.Exports
import ObjectBridge.Proofs.Bridge.Change
import ObjectBridge.Proofs.Bridge.Runs

/-!
# Bodies report nothing

Only the exported operations report failures.  A creation or a call, whatever its
body does and however deep it nests, leaves the reports as they are and says nothing
of failures in the journal: an error that a body gets for an answer is for that body
to deal with.  Neither does it change the options, the types or the native functions
of the bridge.
-/

namespace ObjectBridge

/-! ## Notices -/

/-- Whether an event tells of the failure of an exported operation. -/
def Event.isNotice : Event → Bool
  | exportFailed _ _ | faultDropped _ => true
  | _ => false

namespace Store

variable {store after : Store}

/-- What the journal tells of failures, in order. -/
def notices (store : Store) : List Event := store.journal.toList.filter Event.isNotice

theorem notices_tell (store : Store) (event : Event) :
    (store.tell event).notices =
      store.notices ++ if event.isNotice then [event] else [] := by
  simp only [notices, tell, Array.toList_push, List.filter_append]
  cases noticed : event.isNotice <;> simp [noticed]

theorem notices_tell_of_not {event : Event} (other : event.isNotice = false) :
    (store.tell event).notices = store.notices := by
  rw [notices_tell, other, if_neg Bool.false_ne_true, List.append_nil]

theorem notices_collect (store : Store) : store.collect.2.notices = store.notices := by
  simp only [collect]
  split
  · rfl
  · exact notices_tell_of_not rfl

theorem notices_allocate (store : Store) (type : TypeDescriptor) (state : ObjectState) :
    (store.allocate type state).2.notices = store.notices := by
  simp only [allocate]
  split
  · exact store.notices_collect
  · rfl

theorem notices_leave (store : Store) : store.leave.notices = store.notices := by
  obtain ⟨_, _, leaveEq⟩ := store.leave_eq
  rw [leaveEq]
  rfl

theorem notices_of_release {token : Token} (released : store.release token = .ok after) :
    after.notices = store.notices := by
  obtain ⟨_, _, _, _, rfl⟩ := exists_of_release released
  exact @notices_tell_of_not store (.released token) rfl

theorem notices_of_register {object : HeapObject} {mode : HandleMode} {token : Token}
    (registered : store.register object mode = .ok (token, after)) :
    after.notices = store.notices := by
  obtain ⟨_, _, _, rfl⟩ := exists_of_register registered
  exact @notices_tell_of_not store (.registered mode token object.type.name object.id) rfl

end Store

/-! ## Bridges -/

/-- A bridge after something that reports nothing, and leaves everything but objects,
handles and other events alone. -/
structure Bridge.Quiet (before after : Bridge) : Prop where
  options_eq : after.options = before.options
  registry_eq : after.registry = before.registry
  calls_eq : after.calls = before.calls
  reports_eq : after.reports = before.reports
  notices_eq : after.store.notices = before.store.notices

namespace Bridge.Quiet

variable {before middle after : Bridge}

theorem refl (bridge : Bridge) : bridge.Quiet bridge := ⟨rfl, rfl, rfl, rfl, rfl⟩

theorem trans (early : before.Quiet middle) (late : middle.Quiet after) : before.Quiet after where
  options_eq := late.options_eq.trans early.options_eq
  registry_eq := late.registry_eq.trans early.registry_eq
  calls_eq := late.calls_eq.trans early.calls_eq
  reports_eq := late.reports_eq.trans early.reports_eq
  notices_eq := late.notices_eq.trans early.notices_eq

/-- Another store with the same notices. -/
theorem ofStore {store : Store} (noticesEq : store.notices = before.store.notices) :
    before.Quiet { before with store } :=
  ⟨rfl, rfl, rfl, rfl, noticesEq⟩

theorem destroy (bridge : Bridge) (token : Token) : bridge.Quiet (bridge.destroy token).2 := by
  rw [Bridge.destroy]
  split
  · rename_i released
    exact ofStore (Store.notices_of_release released)
  · exact refl bridge

theorem register (bridge : Bridge) (object : HeapObject) (mode : HandleMode) :
    bridge.Quiet (bridge.register object mode).2 := by
  rw [Bridge.register]
  split
  · rename_i registered
    exact ofStore (Store.notices_of_register registered)
  · exact refl bridge

end Bridge.Quiet

/-! ## Runs -/

/-- A run that reports nothing, whatever comes of it. -/
structure Run.Quiet {α : Type} (run : Run α) : Prop where
  quiet : ∀ {before answer after}, run before = .ok (answer, after) → before.Quiet after

namespace Run.Quiet

variable {α β : Type}

theorem pure (answer : α) : Quiet (Pure.pure answer : Run α) := by
  constructor
  intro before _ _ ran
  cases ran
  exact .refl before

theorem bind {first : Run α} {next : α → Run β} (start : Quiet first)
    (rest : ∀ answer, Quiet (next answer)) : Quiet (first >>= next) := by
  constructor
  intro _ _ _ ran
  obtain ⟨answer, middle, firstRan, restRan⟩ := Run.bind_eq_ok_iff.mp ran
  exact (start.quiet firstRan).trans ((rest answer).quiet restRan)

theorem modifyGet {change : Bridge → α × Bridge}
    (quiet : ∀ bridge : Bridge, bridge.Quiet (change bridge).2) :
    Quiet (MonadStateOf.modifyGet change : Run α) := by
  constructor
  intro before _ _ ran
  have quietHere := quiet before
  rw [Except.ok.inj ran] at quietHere
  exact quietHere

theorem get {next : Bridge → Run α} (rest : ∀ bridge, Quiet (next bridge)) :
    Quiet (MonadState.get >>= next) := by
  constructor
  intro before _ _ ran
  exact (rest before).quiet ran

theorem throw (halt : Halt) : Quiet (MonadExcept.throw halt : Run α) := by
  constructor
  intro _ _ _ ran
  cases ran

end Run.Quiet

/-- Services whose creations and calls report nothing. -/
structure Services.Quiet (services : Services) : Prop where
  create : ∀ typeName arguments mode, (services.create typeName arguments mode).Quiet
  invoke : ∀ token method arguments, (services.invoke token method arguments).Quiet

namespace Services.Quiet

variable {services : Services}

/-- A body reports nothing, whatever it does. -/
theorem run (quiet : services.Quiet) {σ α : Type} {save : σ → Bridge → Bridge}
    (saves : ∀ state (bridge : Bridge), bridge.Quiet (save state bridge))
    (body : Program σ α) : Run.Quiet (body.run services save) := by
  induction body with
  | done result => exact .pure _
  | fault raised => exact .pure _
  | panic payload => exact .pure _
  | write state rest ih => exact .bind (.modifyGet (saves state)) fun _ => ih
  | create typeName arguments mode next ih => exact (quiet.create _ _ _).bind ih
  | invoke token method arguments next ih => exact (quiet.invoke _ _ _).bind ih
  | destroy token next ih => exact .bind (.modifyGet fun bridge => .destroy bridge token) ih
  | collect next ih =>
      exact .bind (.modifyGet fun bridge => .ofStore bridge.store.notices_collect) ih
  | internalCall className member moduleName next ih => exact .get fun _ => ih _
  | draw next ih =>
      constructor
      intro before _ _ ran
      obtain ⟨_, _, got, setRan⟩ := Run.bind_eq_ok_iff.mp ran
      cases got
      obtain ⟨_, _, set, restRan⟩ := Run.bind_eq_ok_iff.mp setRan
      cases set
      have drawn : before.Quiet { before with drawn := before.drawn + 1 } :=
        ⟨rfl, rfl, rfl, rfl, rfl⟩
      exact drawn.trans ((ih _).quiet restRan)

private theorem runConstruction (quiet : services.Quiet) (work : Bridge.Construction)
    (mode : HandleMode) : (Bridge.runConstruction services work mode).Quiet := by
  refine (quiet.run nofun work.body).bind fun result => ?_
  cases result with
  | error raised => exact .pure _
  | ok state =>
      refine .bind (.modifyGet fun bridge => ?_) fun object =>
        .modifyGet fun bridge => .register bridge object mode
      exact .ofStore (bridge.store.notices_allocate work.type state)

private theorem runInvocation (quiet : services.Quiet) (work : Bridge.Invocation) :
    (Bridge.runInvocation services work).Quiet := by
  have saves (state : ObjectState) (bridge : Bridge) :
      bridge.Quiet (Bridge.setState work.receiver state bridge) := .ofStore rfl
  have runs : Run.Quiet do
      modify (Bridge.enter work.receiver)
      let answer ← work.body.run services (Bridge.setState work.receiver)
      modify Bridge.leave
      return answer.mapError (BridgeError.invocation work.target) := by
    refine .bind (.modifyGet fun bridge => .ofStore rfl) fun _ => ?_
    refine (quiet.run saves work.body).bind fun answer => ?_
    exact .bind (.modifyGet fun bridge => .ofStore bridge.store.notices_leave) fun _ => .pure _
  refine .get fun bridge => ?_
  split
  · exact .bind (.throw _) fun _ => runs
  · exact runs

theorem createWith (quiet : services.Quiet) (typeName : String) (arguments : List Value)
    (mode : HandleMode) : (Bridge.createWith services typeName arguments mode).Quiet := by
  refine .get fun bridge => ?_
  split
  · refine .bind (.modifyGet fun bridge => .ofStore ?_) fun _ => .pure _
    exact Store.notices_tell_of_not rfl
  · split
    · exact .pure _
    · exact quiet.runConstruction _ mode

theorem invokeWith (quiet : services.Quiet) (token : Token) (method : String)
    (arguments : List Value) : (Bridge.invokeWith services token method arguments).Quiet := by
  refine .get fun bridge => ?_
  split
  · exact .pure _
  · split
    · exact .pure _
    · exact quiet.runInvocation _

end Services.Quiet

/-- Creations and calls report nothing, whatever the depth that they may nest to. -/
theorem Bridge.services_quiet (depth : Nat) : (Bridge.services depth).Quiet := by
  induction depth with
  | zero => exact ⟨fun _ _ _ => .throw _, fun _ _ _ => .throw _⟩
  | succ depth ih => exact ⟨ih.createWith, ih.invokeWith⟩

end ObjectBridge
