import ObjectBridge.Source.Phrase.Reading
import ObjectBridge.Source.Token.Scan

/-!
# Reading blocks

A block is read from its text.  Its head tells the type, and whether the block is
generic or belongs to a trait; of its items functions are looked into, and the rest is
kept as it is written.  Bodies of functions are passed over.
-/

namespace ObjectBridge.Source

/-! ## Functions -/

/-- The parameter as the exporter sees it, unless it is a receiver or stands for a variable
number of arguments. -/
def ParameterForm.parameter? : ParameterForm → Option Parameter
  | typed isSimple type => some ⟨isSimple, compactText type⟩
  | receiver _ | variadic => none

/-- The function that a signature declares. -/
def Signature.function (signature : Signature) (isPublic : Bool) (attributes : List Attribute) :
    FunctionItem where
  name := signature.name
  isPublic := isPublic
  isAsync := signature.isAsync
  receiver := signature.receiver?
  parameters := signature.parameters.filterMap ParameterForm.parameter?
  returns :=
    match signature.output with
    | some type => .type type.form.lastName?
    | none => .nothing
  attributes := attributes

namespace Nested

open Reader

/-! ## Blocks -/

/-- An item of a block.  Only a function with a body counts as one. -/
def blockItem (nested : Nested) : Reader Item := do
  let start ← get
  let outer ← markers nested.bound false
  let visibility ← visibility
  let _ ← onlyIf startsDefault (word "default")
  if ← ahead (startsSignature false) then
    let signature ← nested.signature
    if ← ahead (startsOpening "\x7b") then
      let _ ← opening "\x7b"
      let inner ← markers nested.bound true
      let _ ← inside
      let _ ← closing
      return .function (signature.function (visibility.length == 1) (outer ++ inner))
  let _ ← toSemicolon nested.bound
  return .other (compactText (← since start))

/-- A block. -/
def blockOfItems (nested : Nested) : Reader Block := do
  let _ ← word "impl"
  let generics ← onlyIf startsParameters nested.generics
  let isNever ← ahead fun tokens => startsOpening "\x7b" (tokens.drop 1)
  let negation ← if isNever then pure [] else operatorIf "!"
  let first ← nested.type true
  let isTrait ← ahead (startsWord "for")
  guard (isTrait || negation.isEmpty)
  let type ←
    if isTrait then
      let _ ← word "for"
      nested.type true
    else pure first
  let _ ← nested.whereClause
  let _ ← opening "\x7b"
  let _ ← markers nested.bound true
  let items ← repeated (startsKind .closing) nested.blockItem nested.bound
  let _ ← closing
  return {
    selfType := compactText type.tokens
    selfName := type.form.lastName?
    isTrait := isTrait
    isGeneric := !generics.isEmpty
    items := items }

end Nested

/-- The block that a text is.  No token opens more than a few phrases, which bounds the
depth of the reading. -/
def Block.read? (text : String) : Option Block := do
  let tokens ← tokens? text
  let (block, rest) ← (Nested.ofDepth (8 * (tokens.length + 4))).blockOfItems tokens
  if rest.isEmpty then some block else none

end ObjectBridge.Source
