import ObjectBridge.Reflect.Descriptor
import ObjectBridge.Reflect.Overload

/-!
# Selecting and binding

How a call finds the body that answers it: the constructor by the kinds of the
arguments, the method by its name and the number of arguments.  Binding then
passes each argument for its parameter.
-/

namespace ObjectBridge

/-- Pass arguments for parameters, counting positions from `index`.  The first
argument that may not be passed is reported. -/
def bindFrom (target : String) : Nat → List Kind → List Value →
    Except DispatchError (List Value)
  | index, parameter :: parameters, argument :: arguments =>
      match argument.coerce parameter with
      | some bound => (bindFrom target (index + 1) parameters arguments).map (bound :: ·)
      | none => .error (.argumentMismatch target index parameter argument.kind)
  | _, _, _ => .ok []

/-- Pass arguments for the parameters of `target`. -/
def bindArguments (target : String) (parameters : List Kind) (arguments : List Value) :
    Except DispatchError (List Value) :=
  bindFrom target 0 parameters arguments

/-- Whether a method is one that a call by this name and number of arguments
reaches. -/
def MethodInfo.answers (method : MethodInfo) (name : String) (arity : Nat) :
    Bool :=
  method.name == name && method.parameters.length == arity

namespace TypeDescriptor

/-- The outcome of a constructor call as an answer or an error. -/
def constructorAnswer {α : Type} (type : TypeDescriptor) (parameters : α → List Kind)
    (arity : Nat) : Resolution α → Except DispatchError α
  | .unique chosen => .ok chosen
  | .missing => .error (.missingConstructor type.name arity)
  | .ambiguous tied =>
      .error (.ambiguousMatch type.name
        (tied.map fun chosen => signature (type.name ++ "..ctor") (parameters chosen)))

/-- The constructor that answers a call. -/
def selectConstructor (type : TypeDescriptor) (arguments : List Value) :
    Except DispatchError ConstructorInfo :=
  type.constructorAnswer ConstructorInfo.parameters arguments.length
    (resolveOverload ConstructorInfo.parameters type.constructors (arguments.map Value.kind))

/-- The position of the constructor that answers a call. -/
def selectConstructorIndex (type : TypeDescriptor) (arguments : List Value) :
    Except DispatchError Nat :=
  let parameters : ConstructorInfo × Nat → List Kind := fun declared => declared.1.parameters
  (type.constructorAnswer parameters arguments.length
    (resolveOverload parameters type.constructors.zipIdx (arguments.map Value.kind))).map (·.2)

/-- The first method with a name and a number of parameters. -/
def findMethod? (type : TypeDescriptor) (name : String) (arity : Nat) : Option MethodInfo :=
  type.methods.find? (·.answers name arity)

/-- The position of the first method with a name and a number of parameters. -/
def findMethodIndex? (type : TypeDescriptor) (name : String) (arity : Nat) : Option Nat :=
  type.methods.findIdx? (·.answers name arity)

end TypeDescriptor

end ObjectBridge
