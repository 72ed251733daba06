import ObjectBridge.Source.Phrase.Functions

/-!
# Reading items

An item is read with its attributes.  Forms of items that the language only reserves stand
as they are, attributes included.  Of the others the visibility of variants is left out, and
so is a colon without bounds after it.
-/

namespace ObjectBridge.Source

/-- An item as it is written after its attributes, or nothing if it stands as it is. -/
abbrev ItemText := Option (List Token)

/-- Where an item stands. -/
inductive ItemPlace where
  | module
  | trait
  | implementation
  | foreign
deriving DecidableEq, Repr

namespace Nested

open Reader

/-! ## Functions, constants and types -/

/-- A function.  One without a body is reserved in modules and implementations, and one
with a body among foreign items. -/
def functionItem (nested : Nested) (place : ItemPlace) (lead : List Token) : Reader ItemText := do
  let isSafe ← ahead (startsWord "safe")
  let signature ← nested.signature
  let hasBody ← ahead (startsOpening "\x7b")
  let body ← if hasBody then nested.block else operator ";"
  let isReserved :=
    match place with
    | .module | .implementation => !hasBody
    | .trait => false
    | .foreign => hasBody || isSafe
  return if isReserved then none else some (lead ++ signature.tokens ++ body)

/-- A value after an equals sign, if there is one. -/
def equalValue (nested : Nested) : Reader (List Token) :=
  onlyIf (startsOperator "=") do
    let sign ← operator "="
    return sign ++ (← nested.expression .full)

/-- A constant.  One with generics or constraints is reserved, and so is one without a value
outside traits. -/
def constantItem (nested : Nested) (place : ItemPlace) (lead : List Token) : Reader ItemText := do
  let sign ← word "const"
  let name ← one (·.kind == .word)
  let isGeneric ← ahead (startsOperator "<")
  let _ ← nested.generics
  let colon ← operator ":"
  let type ← nested.type true
  let value ← nested.equalValue
  let isConstrained ← ahead (startsWord "where")
  let _ ← nested.whereClause
  let stop ← operator ";"
  let isReserved := isGeneric || isConstrained || (value.isEmpty && place != .trait)
  return if isReserved then none
    else some (lead ++ sign ++ name ++ colon ++ type.tokens ++ value ++ stop)

/-- A type.  Outside traits one with bounds is reserved, and so is a foreign one that is
defined and any other one that is not. -/
def typeItem (nested : Nested) (place : ItemPlace) (lead : List Token) : Reader ItemText := do
  let sign ← word "type"
  let name ← name
  let generics ← nested.generics
  let isBounded ← ahead (startsOperator ":")
  let bounds ← nested.colonBounds
  let before ← nested.whereClause
  let definition ← nested.equalType
  let after ← nested.whereClause
  let stop ← operator ";"
  let isReserved :=
    match place with
    | .trait => false
    | .foreign => isBounded || !definition.isEmpty
    | .module | .implementation => isBounded || definition.isEmpty
  return if isReserved then none
    else some (lead ++ sign ++ name ++ generics ++ bounds ++ before ++ definition ++ after ++ stop)

/-- A static value.  One without a type or value is reserved; among foreign items it is one
with a value or with a word about its safety. -/
def staticItem (nested : Nested) (place : ItemPlace) (lead : List Token) : Reader ItemText := do
  let safety ← span fun token => token.isWord "unsafe" || token.isWord "safe"
  let sign ← word "static"
  let mode ← wordIf "mut"
  let name ← name
  let type ← onlyIf (startsOperator ":") do
    let colon ← operator ":"
    return colon ++ (← nested.type true).tokens
  let value ← nested.equalValue
  let stop ← operator ";"
  let isReserved :=
    if place = .foreign then !safety.isEmpty || !value.isEmpty
    else type.isEmpty || value.isEmpty
  return if isReserved then none
    else some (lead ++ sign ++ mode ++ name ++ type ++ value ++ stop)

/-! ## Macros -/

/-- A macro call as an item, possibly with a name. -/
def callItem : Reader (List Token) := do
  let path ← span fun token => token.kind == .word || (token.isMark && token.text == ":")
  let mark ← operator "!"
  let name ← onlyIf (startsKind .word) (one fun _ => true)
  let isBraced ← ahead (startsOpening "\x7b")
  let content ← group
  let stop ← if isBraced then pure [] else operator ";"
  return path ++ mark ++ name ++ content ++ stop

/-- A declaration of a macro with its parameters and body, or with its rules. -/
def macroItem : Reader Unit := do
  let _ ← word "macro"
  let _ ← name
  let _ ← onlyIf (startsOpening "(") group
  let _ ← group

/-! ## Data types -/

/-- Fields with names, in braces.  An unnamed field may be a structure or a union, which is
reserved. -/
def namedFields (nested : Nested) : Reader (List Token) :=
  listed "\x7b" (do
    let attributes ← nested.outerAttributes
    let visibility ← visibility
    let name ← one (·.kind == .word)
    let colon ← operator ":"
    let start ← get
    let isReserved := name.any (·.isWord "_") &&
      ["struct", "union"].any (startsWord · start) && startsOpening "\x7b" (start.drop 1)
    let type ←
      if isReserved then (do return (← one fun _ => true) ++ (← group))
      else (·.tokens) <$> nested.type true
    return attributes ++ visibility ++ name ++ colon ++ type) nested.bound

/-- Fields without names, in parentheses. -/
def plainFields (nested : Nested) : Reader (List Token) :=
  listed "(" (do
    let attributes ← nested.outerAttributes
    let visibility ← visibility
    return attributes ++ visibility ++ (← nested.type true).tokens) nested.bound

/-- A structure. -/
def structItem (nested : Nested) : Reader (List Token) := do
  let lead ← word "struct"
  let name ← name
  let generics ← nested.generics
  let before ← nested.whereClause
  let tokens ← get
  let fields ←
    if startsOpening "\x7b" tokens then nested.namedFields
    else if startsOpening "(" tokens then do
      let fields ← nested.plainFields
      let after ← nested.whereClause
      pure (fields ++ after ++ (← operator ";"))
    else operator ";"
  return lead ++ name ++ generics ++ before ++ fields

/-- A union. -/
def unionItem (nested : Nested) : Reader (List Token) := do
  let lead ← word "union"
  let name ← name
  let generics ← nested.generics
  let clause ← nested.whereClause
  return lead ++ name ++ generics ++ clause ++ (← nested.namedFields)

/-- A variant, whose visibility is left out. -/
def variant (nested : Nested) : Reader (List Token) := do
  let attributes ← nested.outerAttributes
  let _ ← visibility
  let name ← name
  let tokens ← get
  let fields ←
    if startsOpening "\x7b" tokens then nested.namedFields
    else if startsOpening "(" tokens then nested.plainFields
    else pure []
  return attributes ++ name ++ fields ++ (← nested.equalValue)

/-- An enumeration. -/
def enumItem (nested : Nested) : Reader (List Token) := do
  let lead ← word "enum"
  let name ← name
  let generics ← nested.generics
  let clause ← nested.whereClause
  return lead ++ name ++ generics ++ clause ++ (← listed "\x7b" nested.variant nested.bound)

/-! ## Members -/

/-- Attributes of what is open and its items, in braces. -/
def body (nested : Nested) (item : Reader (List Token)) : Reader (List Token) :=
  enclosed "\x7b" do
    let attributes ← nested.innerAttributes
    let items ← repeated (startsKind .closing) item nested.bound
    return attributes ++ items.flatten

/-- What is written for an item, given its attributes and the tokens that it began with. -/
def asWritten (start attributes : List Token) : ItemText → Reader (List Token)
  | none => since start
  | some tokens => return attributes ++ tokens

/-- An item of a trait, an implementation or a foreign block.  In a trait one with a
visibility or a default is reserved. -/
def memberItem (nested : Nested) (place : ItemPlace) : Reader (List Token) := do
  let start ← get
  let attributes ← nested.outerAttributes
  let visibility ← visibility
  let default ← onlyIf startsDefault (word "default")
  let lead := visibility ++ default
  let tokens ← get
  let found ←
    if startsSignature (place == .foreign) tokens then nested.functionItem place lead
    else if startsWord "const" tokens then nested.constantItem place lead
    else if startsWord "type" tokens then nested.typeItem place lead
    else if startsWord "static" tokens || startsWord "static" (tokens.drop 1) then
      nested.staticItem place lead
    else some <$> callItem
  asWritten start attributes (if place = .trait && !lead.isEmpty then none else found)

/-! ## Traits and implementations -/

/-- A trait, or a name for bounds. -/
def traitItem (nested : Nested) : Reader (List Token) := do
  let modes ← span fun token => token.isWord "unsafe" || token.isWord "auto"
  let lead ← word "trait"
  let name ← name
  let generics ← nested.generics
  let head := modes ++ lead ++ name ++ generics
  if ← ahead (startsOperator "=") then
    let sign ← operator "="
    let bounds ← nested.boundsText
    let clause ← nested.whereClause
    return head ++ sign ++ bounds.tokens ++ clause ++ (← operator ";")
  else
    let bounds ← nested.colonBounds
    let clause ← nested.whereClause
    return head ++ bounds ++ clause ++ (← nested.body (nested.memberItem .trait))

/-- An implementation.  One with a visibility, a constant one, and one of what is no path are
reserved. -/
def implementationItem (nested : Nested) (visibility : List Token) : Reader ItemText := do
  let modes ← span fun token => token.isWord "default" || token.isWord "unsafe"
  let lead ← word "impl"
  let generics ← onlyIf startsParameters nested.generics
  let constancy ←
    onlyIf (fun tokens => startsWord "const" tokens ||
        (startsOperator "?" tokens && startsWord "const" (tokens.drop 1))) do
      return (← operatorIf "?") ++ (← word "const")
  let negation ←
    onlyIf (fun tokens => startsOperator "!" tokens && !startsOpening "\x7b" (tokens.drop 1))
      (operator "!")
  let first ← nested.type true
  let subject ← onlyIf (startsWord "for") do
    let sign ← word "for"
    return sign ++ (← nested.type true).tokens
  let clause ← nested.whereClause
  let body ← nested.body (nested.memberItem .implementation)
  let isReserved := !visibility.isEmpty || !constancy.isEmpty ||
    (!subject.isEmpty && !first.form.isNamePath)
  return if isReserved then none
    else some (modes ++ lead ++ generics ++ negation ++ first.tokens ++ subject ++ clause ++ body)

/-! ## Items -/

/-- A module: a name, or its items. -/
def moduleItem (nested : Nested) : Reader (List Token) := do
  let safety ← wordIf "unsafe"
  let lead ← word "mod"
  let name ← one (·.kind == .word)
  let isNamed ← ahead (startsOperator ";")
  return safety ++ lead ++ name ++
    (← if isNamed then operator ";" else nested.body nested.item)

/-- A block of foreign items. -/
def foreignItem (nested : Nested) : Reader (List Token) := do
  let safety ← wordIf "unsafe"
  let convention ← convention
  return safety ++ convention ++ (← nested.body (nested.memberItem .foreign))

/-- An item after its attributes and visibility. -/
def itemText (nested : Nested) (visibility : List Token) : Reader ItemText := do
  let tokens ← get
  let next := tokens.drop 1
  let kept (reader : Reader (List Token)) : Reader ItemText := do
    return some (visibility ++ (← reader))
  if startsSignature false tokens then nested.functionItem .module visibility
  else if startsWord "extern" tokens && startsWord "crate" next then
    kept (toSemicolon nested.bound)
  else if startsWord "use" tokens then kept (toSemicolon nested.bound)
  else if startsWord "static" tokens then nested.staticItem .module visibility
  else if startsWord "const" tokens then nested.constantItem .module visibility
  else if startsWord "type" tokens then nested.typeItem .module visibility
  else if startsWord "struct" tokens then kept nested.structItem
  else if startsWord "enum" tokens then kept nested.enumItem
  else if startsWord "union" tokens && startsName next then kept nested.unionItem
  else if startsWord "macro" tokens then
    macroItem
    return none
  else
    let inner := pastWord "unsafe" tokens
    if startsWord "mod" inner then kept nested.moduleItem
    else if startsWord "extern" inner then kept nested.foreignItem
    else if startsWord "trait" (pastWord "auto" inner) then kept nested.traitItem
    else if startsWord "impl" inner || startsDefault tokens then
      nested.implementationItem visibility
    else kept callItem

/-- An item after its attributes, given those and the tokens that it began with. -/
def itemAfter (nested : Nested) (start attributes : List Token) : Reader (List Token) := do
  let visibility ← visibility
  nested.itemText visibility >>= asWritten start attributes

/-- An item with its attributes. -/
def itemWithAttributes (nested : Nested) : Reader (List Token) := do
  let start ← get
  let attributes ← nested.outerAttributes
  nested.itemAfter start attributes

end Nested

end ObjectBridge.Source
