import ObjectBridge.Reflect.Program
import ObjectBridge.Reflect.State
import ObjectBridge.Text.Quoted

/-!
# Type descriptors

A descriptor is what the bridge knows of a type: its name and its constructors
and methods in declaration order, each with the kinds of its parameters and a
body over erased states.

Bodies are written over one state type and erased by `TypeDescriptor.build`.  An
erased method first checks that the state it is given is of the type it was
written for.
-/

namespace ObjectBridge

/-- A constructor.  Its body has no receiver, so it writes no state. -/
structure ConstructorInfo where
  parameters : List Kind
  body : List Value → Program Empty ObjectState

/-- A method.  Its body starts with the state of the receiver. -/
structure MethodInfo where
  name : String
  parameters : List Kind
  body : ObjectState → List Value → Program ObjectState (Option Value)

/-- What the bridge knows of a type. -/
structure TypeDescriptor where
  name : String
  constructors : List ConstructorInfo
  methods : List MethodInfo

/-- A constructor written over one state type. -/
structure TypedConstructor (σ : Type) where
  parameters : List Kind
  body : List Value → Program Empty σ

/-- A method written over one state type. -/
structure TypedMethod (σ : Type) where
  name : String
  parameters : List Kind
  body : σ → List Value → Program σ (Option Value)

section Erasure

variable {σ : Type} [StateType σ]

/-- The fault of calling a method on a state of another type. -/
def Fault.wrongReceiver (typeName : String) : Fault :=
  .plain s!"Receiver is not a {typeName}"

/-- A constructor whose results are erased. -/
def TypedConstructor.erase (source : TypedConstructor σ) : ConstructorInfo where
  parameters := source.parameters
  body arguments := (source.body arguments).map id ObjectState.erase

/-- A method that takes and writes erased states of its own type and refuses all
others. -/
def TypedMethod.erase (source : TypedMethod σ) : MethodInfo where
  name := source.name
  parameters := source.parameters
  body state arguments :=
    match state.as? σ with
    | some receiver => (source.body receiver arguments).map ObjectState.erase id
    | none => .fault (.wrongReceiver (StateType.typeName σ))

/-- The descriptor of a type whose objects have states in `σ`. -/
def TypeDescriptor.build (name : String) (constructors : List (TypedConstructor σ))
    (methods : List (TypedMethod σ)) : TypeDescriptor where
  name := name
  constructors := constructors.map TypedConstructor.erase
  methods := methods.map TypedMethod.erase

end Erasure

/-- A name with the kinds of its parameters, as in `Name(int, double)`. -/
def signature (name : String) (parameters : List Kind) : String :=
  name ++ "(" ++ ", ".intercalate (parameters.map Kind.name) ++ ")"

/-- The signature of a method. -/
def MethodInfo.signature (method : MethodInfo) : String :=
  ObjectBridge.signature method.name method.parameters

namespace TypeDescriptor

/-- The signature of a constructor of the type. -/
def constructorSignature (type : TypeDescriptor) (constructor : ConstructorInfo) : String :=
  signature (type.name ++ "..ctor") constructor.parameters

/-- The signature of a method of the type. -/
def methodSignature (type : TypeDescriptor) (method : MethodInfo) : String :=
  type.name ++ "." ++ method.signature

/-- The kinds of parameters in diagnostic dumps. -/
def dumpKinds (kinds : List Kind) : String :=
  Text.bracketed (kinds.map Kind.label)

/-- The text of a descriptor in diagnostic dumps. -/
def dump (type : TypeDescriptor) : String :=
  let constructors := type.constructors.map fun constructor =>
    "ConstructorInfo \x7b params: " ++ dumpKinds constructor.parameters ++ " \x7d"
  let methods := type.methods.map fun method =>
    "MethodInfo \x7b name: " ++ Text.quote method.name ++
      ", params: " ++ dumpKinds method.parameters ++ " \x7d"
  "TypeDescriptor \x7b name: " ++ Text.quote type.name ++
    ", constructors: " ++ Text.bracketed constructors ++
    ", methods: " ++ Text.bracketed methods ++ " \x7d"

end TypeDescriptor

end ObjectBridge
