import ObjectBridge.Reflect.Descriptor

/-!
# Scripted types

Types whose bodies are given as data.  A scripted object holds a list of values
and a serial number; its constructors and methods each do one thing, chosen from
a short list, so that hosts can set up any course of nested calls and failures
without writing bodies.
-/

namespace ObjectBridge

/-- The state of a scripted object. -/
structure ScriptState where
  serial : UInt64
  values : List Value
deriving DecidableEq, Repr

instance : StateType ScriptState where
  typeName := "ScriptState"
  toFields state := .ulong state.serial :: state.values
  ofFields?
    | .ulong serial :: values => some ⟨serial, values⟩
    | _ => none
  ofFields?_toFields _ := rfl

/-- What a scripted constructor does before its values are stored. -/
inductive ConstructorScript where
  /-- Stores its arguments. -/
  | store
  | fault (raised : Fault)
  | panic (payload : PanicPayload)
  /-- Collects garbage, then stores its arguments. -/
  | collect
  /-- Creates an object with its arguments and stores the token. -/
  | create (typeName : String) (mode : HandleMode)

/-- What a scripted method does. -/
inductive MethodScript where
  | nothing
  | store
  | append
  | get (index : Nat)
  | count
  | serial
  | echo (index : Nat)
  | constant (value : Value)
  | fault (raised : Fault)
  | panic (payload : PanicPayload)
  | extract (index : Nat) (kind : Kind)
  | collect
  /-- Calls a method of the object whose token is the first argument, with the
  other arguments. -/
  | invoke (method : String)
  /-- Releases the handle whose token is the first argument. -/
  | destroy
  | create (typeName : String) (mode : HandleMode)
  | internalCall (className member moduleName : String)

namespace Script

/-- A body that failed because a nested operation failed. -/
def nestedFault (message : String) (error : BridgeError) : Fault :=
  .because message (.bridge error)

/-- A token as a value; none is zero. -/
def tokenValue : Option Token → Value
  | some token => .ulong token.raw
  | none => .ulong 0

/-- Create an object and go on with its token. -/
def createThen {σ α : Type} (typeName : String) (mode : HandleMode) (arguments : List Value)
    (next : Value → Program σ α) : Program σ α :=
  .create typeName arguments mode fun
    | .ok token => next (tokenValue token)
    | .error error => .fault (nestedFault "nested create failed" error)

/-- The state of a new object, which gets the next serial number. -/
def finish (values : List Value) : Program Empty ScriptState :=
  .draw fun number => .done ⟨UInt64.ofNat number, values⟩

/-- The word in a value that may hold a token. -/
def tokenWord? : List Value → Option UInt64
  | .ulong word :: _ => some word
  | .pointer address :: _ => some address.raw
  | _ => none

/-- Go on with the token that the first argument holds. -/
def tokenThen {σ α : Type} (arguments : List Value) (next : Token → Program σ α) :
    Program σ α :=
  match tokenWord? arguments with
  | none => .fault (.plain "no token")
  | some word =>
      match Token.ofRaw? word with
      | some token => next token
      | none => .fault (.because "bad token" (.bridge (.handle (.invalid word))))

end Script

/-- The body of a scripted constructor. -/
def ConstructorScript.body (script : ConstructorScript) (arguments : List Value) :
    Program Empty ScriptState :=
  match script with
  | store => Script.finish arguments
  | fault raised => .fault raised
  | panic payload => .panic payload
  | collect => .collect fun _ => Script.finish arguments
  | create typeName mode =>
      Script.createThen typeName mode arguments fun token => Script.finish [token]

/-- The body of a scripted method. -/
def MethodScript.body (script : MethodScript) (state : ScriptState) (arguments : List Value) :
    Program ScriptState (Option Value) :=
  match script with
  | nothing => .done none
  | store => .write { state with values := arguments } (.done none)
  | append => .write { state with values := state.values ++ arguments } (.done none)
  | get index => .done state.values[index]?
  | count => .done (some (.int (Int32.ofNat state.values.length)))
  | serial => .done (some (.ulong state.serial))
  | echo index => .done arguments[index]?
  | constant value => .done (some value)
  | fault raised => .fault raised
  | panic payload => .panic payload
  | extract index kind =>
      .withArgument arguments index fun argument =>
        .ofChecked (argument.extractAs kind) fun value => .done (some value)
  | collect => .collect fun summary => .done (some (.long (Int64.ofNat summary.collected)))
  | invoke method =>
      Script.tokenThen arguments fun token =>
        .invoke token method arguments.tail fun
          | .ok value => .done value
          | .error error => .fault (Script.nestedFault "nested call failed" error)
  | destroy =>
      Script.tokenThen arguments fun token =>
        .destroy token fun
          | .ok () => .done none
          | .error error => .fault (Script.nestedFault "nested destroy failed" error)
  | create typeName mode =>
      Script.createThen typeName mode arguments fun token => .done (some token)
  | internalCall className member moduleName =>
      .internalCall className member moduleName fun
        | some entry => .done (some (.pointer entry))
        | none => .fault (.plain "internal call not uploaded")

/-- A scripted method that may store its arguments before anything else. -/
structure ScriptedMethod where
  name : String
  parameters : List Kind
  storesFirst : Bool
  script : MethodScript

/-- A scripted constructor. -/
structure ScriptedConstructor where
  parameters : List Kind
  script : ConstructorScript

/-- A scripted constructor as one over its state type. -/
def ScriptedConstructor.typed (source : ScriptedConstructor) : TypedConstructor ScriptState where
  parameters := source.parameters
  body := source.script.body

/-- A scripted method as one over its state type. -/
def ScriptedMethod.typed (source : ScriptedMethod) : TypedMethod ScriptState where
  name := source.name
  parameters := source.parameters
  body state arguments :=
    if source.storesFirst then
      let stored := { state with values := arguments }
      .write stored (source.script.body stored arguments)
    else source.script.body state arguments

/-- The descriptor of a scripted type. -/
def scriptedType (name : String) (constructors : List ScriptedConstructor)
    (methods : List ScriptedMethod) : TypeDescriptor :=
  .build name (constructors.map ScriptedConstructor.typed) (methods.map ScriptedMethod.typed)

end ObjectBridge
