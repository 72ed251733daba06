import ObjectBridge.Reflect.Descriptor
import ObjectBridge.Source.Expansion

/-!
# What registrations do

A registration is code: a body that reads its arguments one after another, binds a name to
each, and calls a function of the block with what the names stand for.  Here such a body is
run.  What the parameter types are and what the functions of the block do is given: a type
that a value can be passed for has a kind, and a function takes the values that its
parameters receive.
-/

namespace ObjectBridge.Source

/-! ## Scopes -/

/-- What a name in a body stands for. -/
inductive Meant (σ : Type) where
  | receiver (state : σ)
  | arguments (values : List Value)
  | member (value : Value)

/-- The names in scope, latest first. -/
abbrev Scope (σ : Type) := List (String × Meant σ)

namespace Scope

variable {σ : Type}

/-- What an expression in a call stands for: a name, or the receiver borrowed again. -/
def meant? (scope : Scope σ) (expression : String) : Option (Meant σ) :=
  scope.lookup (if expression = "&*this" then "this" else expression)

/-- The receiver that an expression stands for. -/
def receiver? (scope : Scope σ) (expression : String) : Option σ :=
  match scope.meant? expression with
  | some (.receiver state) => some state
  | _ => none

/-- The value that an expression stands for. -/
def value? (scope : Scope σ) (expression : String) : Option Value :=
  match scope.meant? expression with
  | some (.member value) => some value
  | _ => none

/-- The argument list that a name stands for. -/
def arguments (scope : Scope σ) (name : String) : List Value :=
  match scope.lookup name with
  | some (.arguments values) => values
  | _ => []

end Scope

/-! ## Bodies -/

/-- What the types and the functions of a block are. -/
structure Meaning (σ : Type) where
  /-- The kind of a parameter type. -/
  kind : String → Kind
  construct : String → List Value → Program Empty σ
  call : String → σ → List Value → Program σ (Option Value)

/-- Read arguments from the list of a name and bind them, and go on in the scope then. -/
def extract {σ τ α : Type} (kind : String → Kind) (list : String) :
    List Extraction → Scope σ → (Scope σ → Program τ α) → Program τ α
  | [], scope, next => next scope
  | extraction :: rest, scope, next =>
      .withArgument (scope.arguments list) extraction.index fun argument =>
        .ofChecked (argument.extractAs (kind extraction.type)) fun member =>
          extract kind list rest ((extraction.binder, .member member) :: scope) next

/-- A name that stands for nothing of the sort that is wanted. -/
def unresolved {τ α : Type} : Program τ α := .panic (.text "cannot find value in this scope")

namespace Meaning

variable {σ : Type}

/-- The constructor whose body is the function of a registration itself. -/
def constructor (meaning : Meaning σ) (registration : Registration) : TypedConstructor σ where
  parameters := registration.declared.map meaning.kind
  body := meaning.construct registration.callee

/-- The method whose body is the function of a registration itself. -/
def method (meaning : Meaning σ) (name : String) (registration : Registration) :
    TypedMethod σ where
  name := name
  parameters := registration.declared.map meaning.kind
  body := meaning.call registration.callee

end Meaning

namespace Registration

variable {σ : Type}

/-- The name of the argument list. -/
def listName (registration : Registration) : String := registration.closure.getLast?.getD ""

/-- What the body of a constructor does. -/
def construct (registration : Registration) (meaning : Meaning σ) (arguments : List Value) :
    Program Empty σ :=
  extract meaning.kind registration.listName registration.extractions
    (registration.closure.zip [.arguments arguments]) fun scope : Scope σ =>
      match registration.arguments.mapM scope.value? with
      | some passed => meaning.construct registration.callee passed
      | none => unresolved

/-- What the body of a method does. -/
def call (registration : Registration) (meaning : Meaning σ) (state : σ)
    (arguments : List Value) : Program σ (Option Value) :=
  extract meaning.kind registration.listName registration.extractions
    (registration.closure.zip [.receiver state, .arguments arguments]) fun scope =>
      match registration.arguments with
      | receiver :: rest =>
          match scope.receiver? receiver, rest.mapM scope.value? with
          | some state, some passed => meaning.call registration.callee state passed
          | _, _ => unresolved
      | [] => unresolved

/-- The constructor that is registered, if it is one. -/
def constructor? (registration : Registration) (meaning : Meaning σ) :
    Option (TypedConstructor σ) :=
  match registration.kind with
  | .constructor _ =>
      some { meaning.constructor registration with body := registration.construct meaning }
  | .method _ _ => none

/-- The method that is registered, if it is one. -/
def method? (registration : Registration) (meaning : Meaning σ) : Option (TypedMethod σ) :=
  match registration.kind with
  | .constructor _ => none
  | .method name _ =>
      some { meaning.method name registration with body := registration.call meaning }

end Registration

/-- The descriptor that an exported block builds. -/
def Expansion.type {σ : Type} [StateType σ] (expansion : Expansion) (meaning : Meaning σ) :
    TypeDescriptor :=
  .build expansion.typeName (expansion.registrations.filterMap (·.constructor? meaning))
    (expansion.registrations.filterMap (·.method? meaning))

end ObjectBridge.Source
