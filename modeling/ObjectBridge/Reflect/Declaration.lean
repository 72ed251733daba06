import ObjectBridge.Journal

/-!
# Declared modules

A module as a host declares it: types and native functions in order.  A native
function that points nowhere is left out of the module, and an event says so.
-/

namespace ObjectBridge

/-- A native function of a module, before it has a qualified name. -/
structure CallDeclaration where
  className : String
  member : String
  entry : Address
deriving DecidableEq, Repr

/-- A module before it is put together. -/
structure ModuleDeclaration where
  name : String
  version : String
  types : List TypeDescriptor
  calls : List CallDeclaration

namespace ModuleDeclaration

/-- The module that a declaration makes. -/
def toModule (declaration : ModuleDeclaration) : TypeModule :=
  let typed := declaration.types.foldl TypeModule.addType
    (.empty declaration.name declaration.version)
  declaration.calls.foldl
    (fun module call => module.addInternalCall call.className call.member call.entry) typed

/-- What is told about the native functions that are left out. -/
def skipped (declaration : ModuleDeclaration) : List Event :=
  (declaration.calls.filter (·.entry.isNull)).map fun call =>
    .callSkipped (qualifiedName call.className call.member declaration.name)

end ModuleDeclaration

end ObjectBridge
