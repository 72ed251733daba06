import ObjectBridge.Value.Basic

/-!
# Internal calls

Native functions that a host offers to reflected bodies.  Each is published
under one qualified name, made of its class, its member and its module, and a
later publication under the same name takes the place of an earlier one.
-/

namespace ObjectBridge

/-- The name under which a native function is published. -/
def qualifiedName (className member moduleName : String) : String :=
  className ++ "+" ++ member ++ ", " ++ moduleName

/-- A native function that a module declares. -/
structure InternalCall where
  name : String
  entry : Address
deriving DecidableEq, Repr

/-- The published native functions: one entry per qualified name. -/
structure CallTable where
  entries : List (String × Address)
deriving DecidableEq, Repr

namespace CallTable

/-- The table that nothing was published in. -/
def empty : CallTable := ⟨[]⟩

/-- The native function published under a qualified name. -/
def lookup? (table : CallTable) (name : String) : Option Address :=
  table.entries.lookup name

/-- Publish a native function. -/
def publish (table : CallTable) (call : InternalCall) : CallTable :=
  if (table.lookup? call.name).isSome then
    ⟨table.entries.map fun entry =>
      if entry.1 = call.name then (entry.1, call.entry) else entry⟩
  else
    ⟨table.entries ++ [(call.name, call.entry)]⟩

/-- Publish native functions in order. -/
def upload (table : CallTable) (calls : List InternalCall) : CallTable :=
  calls.foldl publish table

/-- The names of an upload that were published before, by an earlier upload or
earlier in the same one, in order. -/
def replacedBy (table : CallTable) : List InternalCall → List String
  | [] => []
  | call :: rest =>
      let later := (table.publish call).replacedBy rest
      if (table.lookup? call.name).isSome then call.name :: later else later

/-- The native function of a class and member in a module. -/
def internalCall? (table : CallTable) (className member moduleName : String) : Option Address :=
  table.lookup? (qualifiedName className member moduleName)

/-- The number of published names. -/
def size (table : CallTable) : Nat := table.entries.length

end CallTable

end ObjectBridge
