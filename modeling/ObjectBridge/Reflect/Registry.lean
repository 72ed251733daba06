import ObjectBridge.Reflect.Descriptor
import ObjectBridge.Reflect.InternalCalls

/-!
# Modules and the type registry

A module is a named and versioned group of types and native functions.  The
registry loads modules into contexts, keeps a record of every load, whatever
came of it, and finds types by name.  The first type loaded under a name keeps
it.
-/

namespace ObjectBridge

/-- What came of loading a module. -/
inductive LoadStatus where
  | success
  /-- The module has no name. -/
  | invalidModule
  /-- The context has loaded a module of the same full name. -/
  | alreadyLoaded
deriving DecidableEq, Repr

/-- The name of a status in logs. -/
def LoadStatus.name : LoadStatus → String
  | success => "Success"
  | invalidModule => "InvalidModule"
  | alreadyLoaded => "AlreadyLoaded"

/-- A group of types and native functions. -/
structure TypeModule where
  name : String
  version : String
  types : List TypeDescriptor
  calls : List InternalCall

namespace TypeModule

/-- The module without types and native functions. -/
def empty (name version : String) : TypeModule := ⟨name, version, [], []⟩

/-- The name and version of a module. -/
def fullName (module : TypeModule) : String :=
  module.name ++ ", Version=" ++ module.version

/-- Add a type. -/
def addType (module : TypeModule) (type : TypeDescriptor) : TypeModule :=
  { module with types := module.types ++ [type] }

/-- Declare a native function.  One that points nowhere is left out. -/
def addInternalCall (module : TypeModule) (className member : String) (entry : Address) :
    TypeModule :=
  if entry.isNull then module
  else
    { module with
      calls := module.calls ++ [⟨qualifiedName className member module.name, entry⟩] }

end TypeModule

/-- The record of one load. -/
structure ModuleSummary where
  fullName : String
  status : LoadStatus
  /-- The names of the types, in declaration order, if the load succeeded. -/
  types : List String
deriving DecidableEq, Repr

/-- The loads made into one context, in order. -/
structure ContextSummary where
  name : String
  modules : List ModuleSummary
deriving DecidableEq, Repr

/-- The full names of the modules, in load order. -/
def ContextSummary.moduleNames (context : ContextSummary) : List String :=
  context.modules.map (·.fullName)

/-- The contexts in order of first use, and the types that names lead to. -/
structure TypeRegistry where
  contexts : List ContextSummary
  index : List (String × TypeDescriptor)

namespace TypeRegistry

/-- The registry that nothing was loaded into. -/
def empty : TypeRegistry := ⟨[], []⟩

/-- The context that modules are loaded into unless another is named. -/
def defaultContext : String := "Default"

/-- The type that a name leads to. -/
def findType? (registry : TypeRegistry) (name : String) : Option TypeDescriptor :=
  registry.index.lookup name

/-- The number of names that lead to a type. -/
def typeCount (registry : TypeRegistry) : Nat := registry.index.length

/-- Whether a context holds a successful load of a module of this full name. -/
def hasLoaded (registry : TypeRegistry) (context fullName : String) : Bool :=
  registry.contexts.any fun summary =>
    summary.name == context &&
      summary.modules.any fun module =>
        module.status == .success && module.fullName == fullName

/-- What will come of loading a module into a context. -/
def statusOf (registry : TypeRegistry) (context : String) (module : TypeModule) : LoadStatus :=
  if module.name.isEmpty then .invalidModule
  else if registry.hasLoaded context module.fullName then .alreadyLoaded
  else .success

/-- Let a name lead to a type unless it leads to one already. -/
def indexType (index : List (String × TypeDescriptor)) (type : TypeDescriptor) :
    List (String × TypeDescriptor) :=
  if (index.lookup type.name).isSome then index else index ++ [(type.name, type)]

/-- The names of types, in order, that lead to another type when they come to be
indexed. -/
def shadowedNames (index : List (String × TypeDescriptor)) : List TypeDescriptor → List String
  | [] => []
  | type :: rest =>
      let later := shadowedNames (indexType index type) rest
      if (index.lookup type.name).isSome then type.name :: later else later

/-- Append a record to its context, which is new if no record was made in it. -/
def appendRecord (contexts : List ContextSummary) (context : String) (summary : ModuleSummary) :
    List ContextSummary :=
  match contexts with
  | [] => [⟨context, [summary]⟩]
  | first :: rest =>
      if first.name = context then { first with modules := first.modules ++ [summary] } :: rest
      else first :: appendRecord rest context summary

/-- Load a module into a context. -/
def load (registry : TypeRegistry) (context : String) (module : TypeModule) :
    LoadStatus × TypeRegistry :=
  let status := registry.statusOf context module
  let loaded := if status = .success then module.types else []
  let summary : ModuleSummary := ⟨module.fullName, status, loaded.map (·.name)⟩
  (status,
    { contexts := appendRecord registry.contexts context summary
      index := loaded.foldl indexType registry.index })

/-- The names that a load leaves with the type they led to before. -/
def shadowedBy (registry : TypeRegistry) (context : String) (module : TypeModule) : List String :=
  if registry.statusOf context module = .success then
    shadowedNames registry.index module.types
  else []

/-- The text of a registry in diagnostic dumps. -/
def dump (registry : TypeRegistry) : String :=
  "TypeRegistry \x7b types: " ++ toString registry.typeCount ++ " \x7d"

end TypeRegistry

end ObjectBridge
