import ObjectBridge.Source.Block
import ObjectBridge.Source.Naming

/-!
# Expansion

Exporting a block removes its markers and makes one registration per exported
member, in declaration order.  A function marked `constructor` is a constructor;
any other is a method if it is public and takes its receiver by reference.  A
registration declares the kinds of the parameters, extracts the arguments in
order and calls the function with them.
-/

namespace ObjectBridge.Source

/-- How a method takes its receiver. -/
inductive MethodReceiver where
  | shared
  | mutable
deriving DecidableEq, Repr

/-- What an exported member is. -/
inductive MemberKind where
  /-- `fallible` if the function itself says whether it succeeds. -/
  | constructor (fallible : Bool)
  | method (name : String) (receiver : MethodReceiver)
deriving DecidableEq, Repr

/-- An exported member. -/
structure Member where
  kind : MemberKind
  function : String
  types : List String
deriving DecidableEq, Repr

/-! ## Markers -/

/-- Remove the attributes with a path. -/
def removeAll (path : String) (attributes : List Attribute) : List Attribute :=
  attributes.filter fun marker => marker.path != path

/-- Remove the first attribute with a path. -/
def removeFirst (path : String) (attributes : List Attribute) : List Attribute :=
  attributes.eraseP fun marker => marker.path == path

/-- The first attribute with a path. -/
def firstNamed? (path : String) (attributes : List Attribute) : Option Attribute :=
  attributes.find? fun marker => marker.path == path

namespace FunctionItem

/-- Whether a function is marked as a constructor. -/
def isConstructor (item : FunctionItem) : Bool :=
  item.attributes.any fun marker => marker.path == "constructor"

/-- The function without the markers that were read. -/
def withoutMarkers (item : FunctionItem) : FunctionItem :=
  { item with
    attributes := removeFirst "rename" (removeAll "constructor" item.attributes) }

/-- The name that a function is to be exported under, if it is renamed. -/
def rename (item : FunctionItem) : Except SourceError (Option String) :=
  match firstNamed? "rename" item.attributes with
  | none => .ok none
  | some marker => do
      let name ← marker.arguments.onlyText
      if name.isEmpty then throw .emptyName
      return some name

/-- What the parameters of a function lead to. -/
inductive Inputs where
  /-- The function takes its receiver by value and is not exported. -/
  | skipped
  | taken (receiver : Option MethodReceiver) (types : List String)
deriving DecidableEq, Repr

/-- The types of parameters that all have simple patterns. -/
def parameterTypes : List Parameter → Except SourceError (List String)
  | [] => .ok []
  | parameter :: rest =>
      if parameter.isSimple then (parameterTypes rest).map (parameter.type :: ·)
      else .error .complexPattern

/-- Look at the receiver and the parameters, in this order. -/
def inputs (item : FunctionItem) : Except SourceError Inputs :=
  match item.receiver with
  | some .byValue =>
      if item.isConstructor then .error .constructorReceiver
      else if item.isPublic then .error .valueReceiver
      else .ok .skipped
  | some .shared => (parameterTypes item.parameters).map (.taken (some .shared))
  | some .mutable => (parameterTypes item.parameters).map (.taken (some .mutable))
  | none => (parameterTypes item.parameters).map (.taken none)

/-- The constructor that a function is. -/
def constructorMember (item : FunctionItem) (rename : Option String)
    (receiver : Option MethodReceiver) (types : List String) : Except SourceError Member := do
  if receiver.isSome then throw .constructorReceiver
  if rename.isSome then throw .constructorRenamed
  if item.returns = .nothing then throw .constructorReturnsNothing
  return ⟨.constructor item.returns.isResult, item.name, types⟩

/-- The member that a function is exported as, if it is exported.  A function that
runs asynchronously is not looked at further. -/
def member (item : FunctionItem) : Except SourceError (Option Member) := do
  let rename ← item.rename
  if item.isAsync then
    if item.isConstructor then throw .asyncConstructor else return none
  match ← item.inputs with
  | .skipped => return none
  | .taken receiver types =>
      if item.isConstructor then
        return some (← item.constructorMember rename receiver types)
      match receiver with
      | some receiver =>
          if item.isPublic then
            let name := rename.getD (pascalCase item.name)
            return some ⟨.method name receiver, item.name, types⟩
          else return none
      | none => return none

end FunctionItem

/-- The exported members of functions, in order. -/
def members : List FunctionItem → Except SourceError (List Member)
  | [] => .ok []
  | item :: rest => do
      let first ← item.member
      let others ← members rest
      return first.toList ++ others

/-! ## Registrations -/

/-- Reading one argument: the name it is bound to, the type it is read as, and its
position. -/
structure Extraction where
  binder : String
  type : String
  index : Nat
deriving DecidableEq, Repr

/-- The registration of a member. -/
structure Registration where
  kind : MemberKind
  /-- The types whose kinds are declared, in order. -/
  declared : List String
  /-- The names that the body gives to what it is called with. -/
  closure : List String
  extractions : List Extraction
  callee : String
  /-- What the function is called with, in order. -/
  arguments : List String
deriving DecidableEq, Repr

namespace Member

/-- The name that the argument at a position is bound to. -/
def binder (index : Nat) : String := "arg" ++ toString index

/-- The names that the arguments are bound to. -/
def binders (member : Member) : List String :=
  (List.range member.types.length).map binder

/-- The readings of the arguments. -/
def extractions (member : Member) : List Extraction :=
  (member.types.zip member.binders).zipIdx.map fun ((type, binder), index) =>
    ⟨binder, type, index⟩

/-- The name that the body gives to its argument list. -/
def listName (member : Member) : String :=
  if member.types.isEmpty then "_args" else "args"

/-- The registration. -/
def registration (member : Member) : Registration where
  kind := member.kind
  declared := member.types
  closure :=
    match member.kind with
    | .constructor _ => [member.listName]
    | .method _ _ => ["this", member.listName]
  extractions := member.extractions
  callee := "Self::" ++ member.function
  arguments :=
    match member.kind with
    | .constructor _ => member.binders
    | .method _ .shared => "&*this" :: member.binders
    | .method _ .mutable => "this" :: member.binders

end Member

/-- An exported block. -/
structure Expansion where
  typeName : String
  selfType : String
  functions : List FunctionItem
  registrations : List Registration
deriving DecidableEq, Repr

/-- The name of the exported type: the given one, or that of the type itself. -/
def Block.typeName (block : Block) : Option String → Except SourceError String
  | some name => .ok name
  | none =>
      match block.selfName with
      | some name => .ok name
      | none => .error .unnamedType

/-- Export a block.  The attribute is read first, then the head of the block, then
its functions in order. -/
def expand (properties : List Token) (block : Block) : Except SourceError Expansion := do
  let name ← exportedName properties
  if block.isTrait then throw .traitBlock
  if block.isGeneric then throw .genericBlock
  let typeName ← block.typeName name
  let found ← members block.functions
  return {
    typeName := typeName
    selfType := block.selfType
    functions := block.functions.map FunctionItem.withoutMarkers
    registrations := found.map Member.registration }

end ObjectBridge.Source
