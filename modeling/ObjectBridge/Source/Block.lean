import ObjectBridge.Source.Attribute

/-!
# Blocks

A block as the exporter sees it: the type that it belongs to and its items in
order.  Of a function it knows the name, how it is declared, its receiver, its
parameters, what it returns, and its attributes.
-/

namespace ObjectBridge.Source

/-- How a method takes its receiver. -/
inductive ReceiverForm where
  | shared
  | mutable
  | byValue
deriving DecidableEq, Repr

/-- A parameter other than the receiver. -/
structure Parameter where
  /-- Whether the pattern is a plain name or the wildcard. -/
  isSimple : Bool
  /-- The type, written without spaces. -/
  type : String
deriving DecidableEq, Repr

/-- What a function returns. -/
inductive ReturnForm where
  | nothing
  /-- A type; the last name in its path, if it is a path. -/
  | type (lastSegment : Option String)
deriving DecidableEq, Repr

/-- A function of a block. -/
structure FunctionItem where
  name : String
  /-- Whether the function is visible everywhere, without restriction. -/
  isPublic : Bool
  isAsync : Bool
  receiver : Option ReceiverForm
  parameters : List Parameter
  returns : ReturnForm
  attributes : List Attribute
deriving DecidableEq, Repr

/-- An item of a block. -/
inductive Item where
  | function (item : FunctionItem)
  /-- An item that is no function, as it is written. -/
  | other (text : String)
deriving DecidableEq, Repr

/-- A block. -/
structure Block where
  /-- The type that the block belongs to, written without spaces. -/
  selfType : String
  /-- The last name in the path of that type, if it is a path. -/
  selfName : Option String
  isTrait : Bool
  isGeneric : Bool
  items : List Item
deriving DecidableEq, Repr

/-- Whether a return type is some `Result`. -/
def ReturnForm.isResult (form : ReturnForm) : Bool :=
  form == .type (some "Result")

/-- The functions of a block, in order. -/
def Block.functions (block : Block) : List FunctionItem :=
  block.items.filterMap fun
    | .function item => some item
    | .other _ => none

end ObjectBridge.Source
