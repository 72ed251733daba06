import ObjectBridge.Bridge.Basic

/-!
# Running bodies

Creating an object runs a constructor, calling a method runs a method, and
either may ask the bridge for more objects and calls.  A program is run one node
at a time; its nested creations and calls go to `Services`, which run the nested
bodies in the same way with one level of nesting less at their disposal.

A run may halt without an answer.  It does if calls nest deeper than the levels
at its disposal, and if a method is called on an object whose method is running:
such a call would wait for itself.
-/

namespace ObjectBridge

/-- Why a run halts without an answer. -/
inductive Halt where
  | tooDeep
  | reentered (object : ObjectId)
deriving DecidableEq, Repr

/-- Something done with a bridge that may halt. -/
abbrev Run (α : Type) := StateT Bridge (Except Halt) α

/-- What bodies reach through nested creations and calls. -/
structure Services where
  create : String → List Value → HandleMode → Run (Except BridgeError (Option Token))
  invoke : Token → String → List Value → Run (Except BridgeError (Option Value))

/-- Run a body.  `save` stores a state that the body writes.  A panic counts as
the fault that it stands for. -/
def Program.run {σ α : Type} (services : Services) (save : σ → Bridge → Bridge) :
    Program σ α → Run (Except Fault α)
  | .done result => pure (.ok result)
  | .fault raised => pure (.error raised)
  | .panic payload => pure (.error (.ofPanic payload))
  | .write state rest => do
      modify (save state)
      rest.run services save
  | .create typeName arguments mode next => do
      let answer ← services.create typeName arguments mode
      (next answer).run services save
  | .invoke token method arguments next => do
      let answer ← services.invoke token method arguments
      (next answer).run services save
  | .destroy token next => do
      let answer ← modifyGet (·.destroy token)
      (next answer).run services save
  | .collect next => do
      let answer ← modifyGet Bridge.collect
      (next answer).run services save
  | .internalCall className member moduleName next => do
      let bridge ← get
      (next (bridge.calls.internalCall? className member moduleName)).run services save
  | .draw next => do
      let bridge ← get
      set { bridge with drawn := bridge.drawn + 1 }
      (next (bridge.drawn + 1)).run services save

namespace Bridge

/-- Allocate an object. -/
def allocate (bridge : Bridge) (type : TypeDescriptor) (state : ObjectState) :
    HeapObject × Bridge :=
  let (object, store) := bridge.store.allocate type state
  (object, { bridge with store })

/-- Issue a handle for an object. -/
def register (bridge : Bridge) (object : HeapObject) (mode : HandleMode) :
    Except BridgeError (Option Token) × Bridge :=
  match bridge.store.register object mode with
  | .ok (token, store) => (.ok (some token), { bridge with store })
  | .error cause => (.error (.handle cause), bridge)

/-- Replace the state of an object. -/
def setState (id : ObjectId) (state : ObjectState) (bridge : Bridge) : Bridge :=
  { bridge with store := bridge.store.setState id state }

/-- Begin a call on an object. -/
def enter (id : ObjectId) (bridge : Bridge) : Bridge :=
  { bridge with store := bridge.store.enter id }

/-- End the innermost call. -/
def leave (bridge : Bridge) : Bridge :=
  { bridge with store := bridge.store.leave }

/-- A constructor bound to its arguments. -/
structure Construction where
  type : TypeDescriptor
  target : String
  body : Program Empty ObjectState

/-- The constructor of a type that answers, with its arguments passed. -/
def prepareConstruction (type : TypeDescriptor) (arguments : List Value) :
    Except DispatchError Construction := do
  let constructor ← type.selectConstructor arguments
  let target := type.constructorSignature constructor
  let bound ← bindArguments target constructor.parameters arguments
  return ⟨type, target, constructor.body bound⟩

/-- A method bound to its receiver and arguments. -/
structure Invocation where
  receiver : ObjectId
  target : String
  body : Program ObjectState (Option Value)

/-- The method of an object that answers, with its arguments passed. -/
def prepareInvocation (object : HeapObject) (method : String) (arguments : List Value) :
    Except DispatchError Invocation :=
  match object.type.findMethod? method arguments.length with
  | none => .error (.missingMethod object.type.name method arguments.length)
  | some info => do
      let target := object.type.methodSignature info
      let bound ← bindArguments target info.parameters arguments
      return ⟨object.id, target, info.body object.state bound⟩

/-- Run a constructor, allocate the object and issue a handle for it. -/
def runConstruction (services : Services) (construction : Construction) (mode : HandleMode) :
    Run (Except BridgeError (Option Token)) := do
  match ← construction.body.run services (fun state => nomatch state) with
  | .error raised => return .error (.invocation construction.target raised)
  | .ok state =>
      let object ← modifyGet (·.allocate construction.type state)
      modifyGet (·.register object mode)

/-- Run a method.  The receiver stays referenced until the method ends. -/
def runInvocation (services : Services) (invocation : Invocation) :
    Run (Except BridgeError (Option Value)) := do
  if (← get).store.running.contains invocation.receiver then
    throw (.reentered invocation.receiver)
  modify (enter invocation.receiver)
  let answer ← invocation.body.run services (setState invocation.receiver)
  modify leave
  return answer.mapError (.invocation invocation.target)

/-- Create an object.  A type that is unknown is no error: there is no token. -/
def createWith (services : Services) (typeName : String) (arguments : List Value)
    (mode : HandleMode) : Run (Except BridgeError (Option Token)) := do
  match (← get).registry.findType? typeName with
  | none =>
      modify (·.tell (.typeNotFound typeName))
      return .ok none
  | some type =>
      match prepareConstruction type arguments with
      | .error cause => return .error (.dispatch cause)
      | .ok construction => runConstruction services construction mode

/-- Call a method of the object that a token leads to. -/
def invokeWith (services : Services) (token : Token) (method : String)
    (arguments : List Value) : Run (Except BridgeError (Option Value)) := do
  match (← get).resolve token with
  | .error error => return .error error
  | .ok object =>
      match prepareInvocation object method arguments with
      | .error cause => return .error (.dispatch cause)
      | .ok invocation => runInvocation services invocation

/-- What bodies reach with a number of levels of nesting at their disposal. -/
def services (depth : Nat) : Services where
  create typeName arguments mode :=
    match depth with
    | 0 => throw .tooDeep
    | depth + 1 => createWith (services depth) typeName arguments mode
  invoke token method arguments :=
    match depth with
    | 0 => throw .tooDeep
    | depth + 1 => invokeWith (services depth) token method arguments

/-- The levels of nesting that a host has at its disposal. -/
def callDepth : Nat := 10000

/-- Create an object of a named type and issue a handle for it. -/
def create (typeName : String) (arguments : List Value) (mode : HandleMode) :
    Run (Except BridgeError (Option Token)) :=
  (services callDepth).create typeName arguments mode

/-- Call a method of the object that a token leads to. -/
def invoke (token : Token) (method : String) (arguments : List Value) :
    Run (Except BridgeError (Option Value)) :=
  (services callDepth).invoke token method arguments

end Bridge

end ObjectBridge
