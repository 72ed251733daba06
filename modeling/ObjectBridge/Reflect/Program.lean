import ObjectBridge.Error.Fault
import ObjectBridge.Handle.Token
import ObjectBridge.Heap.Statistics
import ObjectBridge.Value.Scalar

/-!
# Bodies as programs

The body of a constructor or method is a program: a tree whose nodes are the
things a body may ask of the bridge, with one branch per answer.  It ends in a
result, in a fault or in a panic.  What the answers are is for the bridge to
say; the tree only says what the body does with them.

A program over `σ` may write the state of its receiver, a member of `σ`.  It
never reads it: a body starts with the state in hand, and while it runs nobody
else changes it.
-/

namespace ObjectBridge

/-- A body that may write states in `σ` and returns results in `α`. -/
inductive Program (σ α : Type) where
  | done (result : α)
  | fault (raised : Fault)
  | panic (payload : PanicPayload)
  /-- Replace the state of the receiver. -/
  | write (state : σ) (rest : Program σ α)
  /-- Create an object and issue a handle for it. -/
  | create (typeName : String) (arguments : List Value) (mode : HandleMode)
      (next : Except BridgeError (Option Token) → Program σ α)
  /-- Call a method of the object behind a token. -/
  | invoke (token : Token) (method : String) (arguments : List Value)
      (next : Except BridgeError (Option Value) → Program σ α)
  /-- Release a handle. -/
  | destroy (token : Token) (next : Except BridgeError Unit → Program σ α)
  /-- Collect garbage. -/
  | collect (next : CollectSummary → Program σ α)
  /-- Look an uploaded native function up. -/
  | internalCall (className member moduleName : String) (next : Option Address → Program σ α)
  /-- Draw a number that no body drew before. -/
  | draw (next : Nat → Program σ α)

namespace Program

variable {σ τ α β : Type}

/-- The same body over another representation of states and results. -/
def map (onState : σ → τ) (onResult : α → β) : Program σ α → Program τ β
  | done result => done (onResult result)
  | fault raised => fault raised
  | panic payload => panic payload
  | write state rest => write (onState state) (rest.map onState onResult)
  | create typeName arguments mode next =>
      create typeName arguments mode fun answer => (next answer).map onState onResult
  | invoke token method arguments next =>
      invoke token method arguments fun answer => (next answer).map onState onResult
  | destroy token next => destroy token fun answer => (next answer).map onState onResult
  | collect next => collect fun answer => (next answer).map onState onResult
  | internalCall className member moduleName next =>
      internalCall className member moduleName fun answer => (next answer).map onState onResult
  | draw next => draw fun answer => (next answer).map onState onResult

/-- Go on with a member of a checked type, or raise the fault of the check. -/
def ofChecked (checked : Except Fault β) (next : β → Program σ α) : Program σ α :=
  match checked with
  | .ok member => next member
  | .error raised => fault raised

/-- Go on with the argument at a position.  Reading past the last argument
panics. -/
def withArgument (arguments : List Value) (index : Nat) (next : Value → Program σ α) :
    Program σ α :=
  match arguments[index]? with
  | some argument => next argument
  | none =>
      panic (.text
        s!"index out of bounds: the len is {arguments.length} but the index is {index}")

/-- The end of a program that asks nothing of the bridge and writes nothing. -/
def immediate? : Program σ α → Option (Except Fault α)
  | done result => some (.ok result)
  | fault raised => some (.error raised)
  | panic payload => some (.error (.ofPanic payload))
  | _ => none

end Program

end ObjectBridge
