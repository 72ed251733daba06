import ObjectBridge.Proofs.Bridge.Adequacy
import ObjectBridge.Proofs.Bridge.Books
import ObjectBridge.Proofs.Bridge.Outcomes
import ObjectBridge.Proofs.Bridge.Survival

/-!
# New objects

When a constructor's body has ended, its object is allocated and a handle is issued for it.
The allocation may collect, and until the handle is issued nothing but the heap refers to
the object.  Still the token leads to the object as soon as the creation is answered, weak or
not: the collection comes before the object, and handles are issued without one.  Every other
token leads where it led when the body ended, unless the collection took its object.
-/

namespace ObjectBridge

namespace Store

variable {store allocated after : Store} {token other : Token} {object : HeapObject}
  {mode : HandleMode} {type : TypeDescriptor} {state : ObjectState} {id : ObjectId}

/-! ## What is found -/

/-- Where a token leads depends on its cell, and on what is found of the cell's object. -/
theorem resolve_congr (cellEq : after.handles.cell? token = store.handles.cell? token)
    (foundEq : ∀ cell, store.handles.cell? token = some cell →
      after.heap.find? cell.object = store.heap.find? cell.object) :
    after.resolve token = store.resolve token := by
  cases before : store.handles.cell? token with
  | none =>
      rw [before] at cellEq
      simp only [resolve, resolveId_of_cell?_eq_none before, resolveId_of_cell?_eq_none cellEq]
  | some cell =>
      rcases cell with ⟨cellMode, id⟩
      have sameFound : after.heap.find? id = store.heap.find? id := foundEq _ before
      rw [before] at cellEq
      cases cellMode with
      | owning => simp only [resolve, resolveId, HandleTable.resolve, before, cellEq, sameFound]
      | weak =>
          by_cases alive : (store.heap.find? id).isSome = true
          · simp [resolve, resolveId, HandleTable.resolve, Heap.isAlive, before, cellEq, sameFound,
              alive]
          · simp [resolve, resolveId, HandleTable.resolve, Heap.isAlive, before, cellEq, sameFound,
              alive]

/-- A collection leaves what is no garbage as it is. -/
theorem Coherent.find?_collect (coherent : store.Coherent) (stays : id ∉ store.heap.garbage) :
    store.collect.2.heap.find? id = store.heap.find? id := by
  have nodup : (store.heap.sweep.memory.map (·.id)).Nodup := coherent.counts.memory_nodup
  rw [collect_heap, Heap.find?_dropReferences nodup, if_neg (by simpa using stays)]
  rfl

/-- Only the heap refers to a new object. -/
theorem eq_of_allocate (allocates : store.allocate type state = (object, allocated)) :
    object = ⟨⟨store.heap.nextNumber⟩, type, state, 1⟩ := by
  obtain ⟨_, _, _, books, readyEq⟩ := store.ready_eq
  rw [allocate_eq, readyEq, Heap.nextObject, books.nextNumber_eq] at allocates
  cases allocates
  rfl

theorem ne_of_allocate (allocates : store.allocate type state = (object, allocated))
    (older : id.number < store.heap.nextNumber) : id ≠ object.id := by
  rintro rfl
  rw [eq_of_allocate allocates] at older
  exact Nat.lt_irrefl _ older

/-- What is there before an allocation stays as it is, unless a collection is due that takes
it. -/
theorem Coherent.find?_allocate (coherent : store.Coherent)
    (allocates : store.allocate type state = (object, allocated))
    (older : id.number < store.heap.nextNumber)
    (stays : store.heap.isDue = true → id ∉ store.heap.garbage) :
    allocated.heap.find? id = store.heap.find? id := by
  have readied : store.ready.heap.find? id = store.heap.find? id := by
    rw [Store.ready]
    split
    · rename_i due
      exact coherent.find?_collect (stays due)
    · rfl
  have notNew := ne_of_allocate allocates older
  rw [allocate_eq] at allocates
  cases allocates
  exact (Heap.find?_insert_of_ne notNew).trans readied

theorem Coherent.find?_allocate_self (coherent : store.Coherent)
    (allocates : store.allocate type state = (object, allocated)) :
    allocated.heap.find? object.id = some object := by
  rw [allocate_eq] at allocates
  cases allocates
  exact Heap.find?_insert_self coherent.ready.counts.find?_fresh

/-- An object is as it was when a handle was issued for another one. -/
theorem find?_register (registered : store.register object mode = .ok (token, after))
    (different : id ≠ object.id) : after.heap.find? id = store.heap.find? id := by
  obtain ⟨handles, _, rfl⟩ := register_eq_ok_iff.mp registered
  cases mode with
  | owning =>
      change (store.heap.addReference object.id).find? id = _
      simp [Heap.find?_addReference, different]
  | weak => rfl

/-- An owning handle is one more reference to its object. -/
theorem find?_register_self (registered : store.register object mode = .ok (token, after))
    (found : store.heap.find? object.id = some object) :
    after.heap.find? object.id = some { object with
      references := object.references + if mode = .owning then 1 else 0 } := by
  obtain ⟨handles, _, rfl⟩ := register_eq_ok_iff.mp registered
  cases mode with
  | owning =>
      change (store.heap.addReference object.id).find? object.id = _
      simp [Heap.find?_addReference, found]
  | weak => exact found

/-! ## What an allocation reclaims -/

/-- The token is weak, and an allocation collects its object first. -/
def Reclaims (store : Store) (token : Token) : Prop :=
  store.heap.isDue = true ∧
    ∃ id ∈ store.heap.garbage, store.handles.cell? token = some ⟨.weak, id⟩

/-- What a token other than those leads to is no garbage when a collection is due. -/
theorem Coherent.notMem_garbage (coherent : store.Coherent) {cell : Cell}
    (cellEq : store.handles.cell? token = some cell) (stays : ¬store.Reclaims token)
    (due : store.heap.isDue = true) : cell.object ∉ store.heap.garbage := by
  rcases cell with ⟨cellMode, id⟩
  cases cellMode with
  | owning =>
      have positive := coherent.outside_pos_iff.mpr (.inl ⟨token, cellEq⟩)
      intro garbage
      rw [(coherent.counts.mem_garbage_iff.mp garbage).2] at positive
      exact Nat.lt_irrefl 0 positive
  | weak => exact fun garbage => stays ⟨due, id, garbage, cellEq⟩

/-- An allocation leaves the handles alone: the token is issued by the table as it was. -/
theorem register_issued (allocates : store.allocate type state = (object, allocated))
    (registered : allocated.register object mode = .ok (token, after)) :
    store.handles.register object.id mode = .ok (token, after.handles) := by
  obtain ⟨_, _, _, _, _, rfl⟩ := exists_of_allocate allocates
  obtain ⟨_, _, tableRegistered, rfl⟩ := exists_of_register registered
  exact tableRegistered

section Issued

variable (coherent : store.Coherent) (allocates : store.allocate type state = (object, allocated))
  (registered : allocated.register object mode = .ok (token, after))

include coherent allocates registered

theorem Coherent.coherent_issued : after.Coherent ∧ object.id ∈ after.heap.objects := by
  obtain ⟨allocatedCoherent, member⟩ := coherent.allocate allocates
  exact ⟨allocatedCoherent.register member registered, objects_of_register registered ▸ member⟩

theorem Coherent.cell?_issued (other : Token) : after.handles.cell? other =
    if other = token then some ⟨mode, object.id⟩ else store.handles.cell? other :=
  (HandleTable.register_fills coherent.sound (register_issued allocates registered)).cell?_eq other

/-- The token led nowhere before. -/
theorem Coherent.cell?_unissued : store.handles.cell? token = none :=
  (HandleTable.register_fills coherent.sound (register_issued allocates registered)).cell?_eq_none

theorem Coherent.live_issued : after.handles.live = store.handles.live + 1 :=
  coherent.sound.live_register (register_issued allocates registered)

/-- The token leads to its object at once. -/
theorem Coherent.resolve_issued : after.resolve token = .ok { object with
    references := object.references + if mode = .owning then 1 else 0 } := by
  obtain ⟨afterCoherent, member⟩ := coherent.coherent_issued allocates registered
  have cellEq := (coherent.cell?_issued allocates registered token).trans (if_pos rfl)
  exact resolve_eq_ok_iff.mpr ⟨afterCoherent.resolveId_of_mem cellEq member,
    find?_register_self registered (coherent.find?_allocate_self allocates)⟩

/-- A token whose object is collected says so. -/
theorem Coherent.resolve_reclaimed (reclaims : store.Reclaims other) :
    after.resolve other = .error (.collected other.raw) := by
  obtain ⟨due, id, garbage, cellEq⟩ := reclaims
  obtain ⟨member, noneOutside⟩ := coherent.counts.mem_garbage_iff.mp garbage
  obtain ⟨afterCoherent, _⟩ := coherent.coherent_issued allocates registered
  have notToken : other ≠ token := by
    rintro rfl
    rw [coherent.cell?_unissued allocates registered] at cellEq
    contradiction
  have afterCell : after.handles.cell? other = some ⟨.weak, id⟩ :=
    (coherent.cell?_issued allocates registered other).trans ((if_neg notToken).trans cellEq)
  have gone : id ∉ after.heap.objects := by
    rw [objects_of_register registered, coherent.mem_allocate_iff allocates]
    rintro (⟨_, held⟩ | rfl)
    · exact absurd (held due) (by simp [noneOutside])
    · exact ne_of_allocate allocates (coherent.counts.number_lt _ member) rfl
  rw [afterCoherent.resolve_eq_error_iff, afterCoherent.resolveId_weak afterCell, if_neg gone]

/-- Every other token leads where it led. -/
theorem Coherent.resolve_other (different : other ≠ token) (stays : ¬store.Reclaims other) :
    after.resolve other = store.resolve other := by
  have cellEq := (coherent.cell?_issued allocates registered other).trans (if_neg different)
  refine resolve_congr cellEq fun cell before => ?_
  have older := coherent.number_lt other cell before
  rw [find?_register registered (ne_of_allocate allocates older)]
  exact coherent.find?_allocate allocates older (coherent.notMem_garbage before stays)

end Issued

end Store

namespace Bridge

variable {bridge after : Bridge} {token : Token} {mode : HandleMode} {state : ObjectState}

/-- What a bridge has after a constructor's body has ended that it had not before: an object,
and a handle for it.  All other tokens lead where they led, unless the allocation collected
their objects. -/
structure Gains (bridge after : Bridge) (token : Token) (mode : HandleMode)
    (type : TypeDescriptor) (state : ObjectState) : Prop where
  /-- The heap refers to the object, and so does the handle if it is owning. -/
  resolve_eq : after.resolve token = .ok
    ⟨⟨bridge.store.heap.nextNumber⟩, type, state, 1 + if mode = .owning then 1 else 0⟩
  mode?_eq : after.store.handles.mode? token = some mode
  liveHandles_eq : after.liveHandles = bridge.liveHandles + 1
  totalAllocated_eq : after.statistics.totalAllocated = bridge.statistics.totalAllocated + 1
  resolve_reclaimed : ∀ other, bridge.store.Reclaims other →
    after.resolve other = .error (.handle (.collected other.raw))
  resolve_other : ∀ other, other ≠ token → ¬bridge.store.Reclaims other →
    after.resolve other = bridge.resolve other

/-- A constructor that ends with a token leaves the bridge with the gain. -/
theorem gains_of_finishConstruction (coherent : bridge.store.Coherent) {work : Construction}
    {effect : Effect}
    (finishes : bridge.finishConstruction work mode (.ok state) =
      (.ok (some token), effect, after)) : bridge.Gains after token mode work.type state := by
  cases finishes_of_finishConstruction finishes with
  | @issued _ _ _ _ store allocates registered =>
      have change : bridge.store.Change _ store := .issued allocates registered
      constructor
      · rw [resolve, coherent.resolve_issued allocates registered, Store.eq_of_allocate allocates]
        rfl
      · rw [HandleTable.mode?, coherent.cell?_issued allocates registered, if_pos rfl]
        rfl
      · exact coherent.live_issued allocates registered
      · exact change.books.totalAllocated_eq
      · intro other reclaims
        rw [resolve, coherent.resolve_reclaimed allocates registered reclaims]
        rfl
      · intro other different stays
        rw [resolve, coherent.resolve_other allocates registered different stays]
        rfl

/-- A creation that ends with a token ran a constructor of the type, which returned a
state. -/
theorem exists_of_created {services : Services} {typeName : String} {arguments : List Value}
    (created : createWith services typeName arguments mode bridge =
      .ok (.ok (some token), after)) :
    ∃ type constructor received state ran effect,
      bridge.registry.findType? typeName = some type ∧
      type.selectConstructor arguments = .ok constructor ∧
      bindArguments (type.constructorSignature constructor) constructor.parameters arguments =
        .ok received ∧
      bridge.react (.create typeName arguments mode) = .begun (.construction
        ⟨type, type.constructorSignature constructor, constructor.body received⟩ mode) bridge ∧
      (constructor.body received).run services (fun state => nomatch state) bridge =
        .ok (.ok state, ran) ∧
      ran.finishConstruction
        ⟨type, type.constructorSignature constructor, constructor.body received⟩ mode (.ok state) =
          (.ok (some token), effect, after) := by
  rcases createWith_eq_ok_iff.mp created with
    answered | ⟨work, result, ran, effect, begun, bodyRan, finishes⟩
  · cases answers_of_react answered
  · cases begins_of_react begun with
    | construction found prepared =>
        obtain ⟨constructor, received, selected, bound, rfl⟩ :=
          prepareConstruction_eq_ok_iff.mp prepared
        cases result with
        | error raised => cases finishes
        | ok state =>
            exact ⟨_, constructor, received, state, ran, effect, found, selected, bound, begun,
              bodyRan, finishes⟩

end Bridge

/-! ## Runs -/

namespace Machine

variable {options : BridgeOptions} {registry : TypeRegistry} {first middle last : Machine}
  {passes later : List Pass} {history : List Effect}

theorem Course.trans (early : first.Course passes middle) (late : middle.Course later last) :
    first.Course (later ++ passes) last := by
  induction late with
  | refl => exact early
  | step _ step ih => exact ih.step step
  | kept _ resolved ih => exact ih.kept resolved
  | gaveUp id _ ih => exact ih.gaveUp id

/-- Steps in order are a course in which the host keeps nothing. -/
theorem Reaches.exists_course (reaches : Reaches first history last) :
    ∃ passes, first.Course passes last := by
  induction reaches with
  | refl => exact ⟨[], .refl⟩
  | tail _ step ih =>
      obtain ⟨passes, course⟩ := ih
      exact ⟨_, course.step step⟩

/-- Handles and objects agree whatever the host keeps. -/
theorem Course.coherent (course : first.Course passes last)
    (coherent : first.bridge.store.Coherent) : last.bridge.store.Coherent := by
  induction course with
  | refl => exact coherent
  | step _ step ih => exact step.change.coherent ih
  | kept _ resolved ih =>
      exact ih.keep (ih.mem_of_resolveId (Bridge.resolveId_of_resolve resolved))
  | gaveUp id _ ih => exact ih.giveUp id

/-- The tokens issued in a course, latest first. -/
def issuedIn (passes : List Pass) : List Token :=
  (TokenMap.ofHistory (passes.map (·.effect))).issued

/-- The handle table represents the tokens issued and not released, whatever the host
keeps. -/
theorem Course.represents (course : (start options registry).Course passes last)
    (few : (issuedIn passes).length < Token.generations) :
    last.bridge.store.handles.Represents (.ofHistory (passes.map (·.effect))) := by
  induction course with
  | refl => exact HandleTable.represents_empty
  | @step passes _ _ effect _ step ih =>
      have earlier : (issuedIn passes).length < Token.generations :=
        (TokenMap.issued_apply_suffix _ effect).length_le.trans_lt few
      exact step.change.represents (ih earlier) earlier
  | kept _ _ ih => exact ih few
  | @gaveUp _ bridge _ id _ ih =>
      have handlesEq : (bridge.store.giveUp id).handles = bridge.store.handles := by
        rw [Store.giveUp]
        split <;> rfl
      change (bridge.store.giveUp id).handles.Represents _
      rw [handlesEq]
      exact ih few

/-- A token that a constructor's end issues was not issued before. -/
theorem Course.notMem_issuedIn {bridge after : Bridge} {frames : List Frame}
    (course : (start options registry).Course passes ⟨bridge, frames⟩)
    (few : (issuedIn passes).length < Token.generations) {work : Bridge.Construction}
    {mode : HandleMode} {state : ObjectState} {token : Token} {effect : Effect}
    (finishes : bridge.finishConstruction work mode (.ok state) =
      (.ok (some token), effect, after)) : token ∉ issuedIn passes := by
  have represents := course.represents few
  cases Bridge.finishes_of_finishConstruction finishes with
  | issued allocates registered =>
      exact (represents.register (Store.register_issued allocates registered)).1

/-- A created object can be used at once.  Whenever a creation that the host or a body asks
for ends with a token, a constructor of the type of that name was selected for the arguments,
its body ran on them as they are passed and returned a state, and the bridge gained, over what
it was when the body had ended, an object of that type in that state and a handle of the mode
that was asked for.  In no run that leads to where the body ended was the token issued, as
long as fewer handles were issued than a slot has generations. -/
theorem created_objects_usable {bridge after : Bridge} {frames : List Frame}
    (course : (start options registry).Course passes ⟨bridge, frames⟩) {typeName : String}
    {arguments : List Value} {mode : HandleMode}
    (asks : Asks frames (.create typeName arguments mode)) {depth : Nat} {token : Token}
    (created : (Bridge.services depth).create typeName arguments mode bridge =
      .ok (.ok (some token), after)) :
    ∃ type constructor received shallower state ran,
      depth = shallower + 1 ∧
      bridge.registry.findType? typeName = some type ∧
      type.selectConstructor arguments = .ok constructor ∧
      bindArguments (type.constructorSignature constructor) constructor.parameters arguments =
        .ok received ∧
      (constructor.body received).run (Bridge.services shallower) (fun state => nomatch state)
        bridge = .ok (.ok state, ran) ∧
      ran.Gains after token mode type state ∧
      (∃ inside ended, ended.immediate? = some (.ok state) ∧
        (start options registry).Course (inside ++ passes)
          ⟨ran, .construction ⟨type, type.constructorSignature constructor, ended⟩ mode ::
            frames⟩) ∧
      ∀ before others, (start options registry).Course before ⟨ran, others⟩ →
        (issuedIn before).length < Token.generations → token ∉ issuedIn before := by
  cases depth with
  | zero => cases created
  | succ shallower =>
      obtain ⟨type, constructor, received, state, ran, effect, found, selected, bound, begun,
        bodyRan, finishes⟩ := Bridge.exists_of_created created
      obtain ⟨ended, history, endedEq, reaches⟩ :=
        (Bridge.services_faithful shallower).run_reaches
          (Frame.holds_construction type (type.constructorSignature constructor) mode) frames _
          bodyRan
      obtain ⟨inside, insideCourse⟩ :=
        ((Reaches.single (.begun asks begun)).trans reaches).exists_course
      have ranCourse := course.trans insideCourse
      have ranCoherent := ranCourse.coherent (Store.coherent_empty options.gcThreshold)
      refine ⟨type, constructor, received, shallower, state, ran, rfl, found, selected, bound,
        bodyRan, Bridge.gains_of_finishConstruction ranCoherent finishes,
        ⟨inside, ended, endedEq, ranCourse⟩, ?_⟩
      intro before others beforeCourse few
      exact beforeCourse.notMem_issuedIn few finishes

/-- A type whose constructor creates a cell that nothing keeps. -/
def nest : TypeDescriptor where
  name := "Nest"
  constructors := [⟨[], fun _ => .create "Cell" [] .weak fun _ => .done ⟨"Nest", []⟩⟩]
  methods := []

/-- On a bridge that collects before every allocation but the first, a weak nest is there
when it is created, and the cell is gone. -/
theorem created_objects_usable_nest :
    let first := start { BridgeOptions.defaults with gcThreshold := 1 }
      ⟨[], [("Cell", inert), ("Nest", nest)]⟩
    let inside := trace (.create "Nest" [] .weak) 3 first
    ∃ after, (Bridge.services 2).create "Nest" [] .weak first.bridge =
        .ok (.ok (some (.ofSlot 1 0)), after) ∧
      inside.2.bridge.Gains after (.ofSlot 1 0) .weak nest ⟨"Nest", []⟩ ∧
      after.resolve (.ofSlot 0 0) = .error (.handle (.collected 1)) ∧
      issuedIn inside.1 = [.ofSlot 0 0] ∧ .ofSlot 1 0 ∉ issuedIn inside.1 := by
  intro first inside
  have creates : ∃ token after, (Bridge.services 2).create "Nest" [] .weak first.bridge =
      .ok (.ok (some token), after) ∧ token = .ofSlot 1 0 := ⟨_, _, rfl, by decide +kernel⟩
  obtain ⟨_, after, created, rfl⟩ := creates
  obtain ⟨_, _, _, shallower, state, ran, depthEq, found, selected, bound, bodyRan, gains, _,
    fresh⟩ := created_objects_usable .refl trivial created
  obtain rfl : 1 = shallower := Nat.succ.inj depthEq
  cases found
  cases selected
  cases bound
  cases bodyRan
  have reclaims : inside.2.bridge.store.Reclaims (.ofSlot 0 0) :=
    ⟨by decide +kernel, ⟨1⟩, by decide +kernel, by decide +kernel⟩
  have issued : issuedIn inside.1 = [.ofSlot 0 0] := by decide +kernel
  refine ⟨after, created, gains, gains.resolve_reclaimed _ reclaims, issued, ?_⟩
  refine fresh inside.1 inside.2.frames (course_trace _ 3 first) ?_
  rw [issued]
  decide +kernel

end Machine

end ObjectBridge
