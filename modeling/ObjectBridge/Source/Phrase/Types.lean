import ObjectBridge.Source.Phrase.Attributes
import ObjectBridge.Source.Phrase.Bounds

/-!
# Reading types

Types that the language only reserves stand as they are.  A relaxed trait between
parentheses takes further bounds wherever it stands; a second pair of parentheses around
it, or around another single trait, is written instead of the first if bounds are added.
-/

namespace ObjectBridge.Source.Nested

open Reader

/-! ## Function pointers -/

/-- The convention that a function is called by, if it is said. -/
def convention : Reader (List Token) :=
  onlyIf (startsWord "extern") do
    let lead ← word "extern"
    return lead ++ (← onlyIf (·.head?.any Token.isLiteral) (one Token.isLiteral))

/-- A parameter of a function pointer; it may have a name.  A receiver that can be changed
stands as it is. -/
def pointerParameter (nested : Nested) : Reader (List Token) := do
  let attributes ← nested.outerAttributes
  let start ← get
  let receiver : Reader (List Token) := do return (← word "mut") ++ (← word "self")
  if startsWord "mut" start then
    let _ ← receiver
    if ← ahead startsColon then
      let _ ← operator ":"
      let _ ← nested.type true
    return attributes ++ (← since start)
  let name ← onlyIf (fun tokens => startsKind .word tokens && startsColon (tokens.drop 1)) do
    let name ← one fun _ => true
    return name ++ (← operator ":")
  let tokens ← get
  if startsWord "mut" tokens then return attributes ++ name ++ (← receiver)
  else if startsOperator "..." tokens then return attributes ++ name ++ (← operator "...")
  else return attributes ++ name ++ (← nested.type true).tokens

/-- The type of a function pointer after what it binds. -/
def functionType (nested : Nested) (binding : List Token) : Reader TypeText := do
  let safety ← wordIf "unsafe"
  let convention ← convention
  let lead ← word "fn"
  let parameters ← listed "(" nested.pointerParameter nested.bound
  let output ← nested.output false
  return .plain (binding ++ safety ++ convention ++ lead ++ parameters ++ outputTokens output)
    (output.any (·.isOpen))

/-! ## Parentheses -/

/-- A type between parentheses, to which bounds may be added, or types between them. -/
def roundType (nested : Nested) (plus : Bool) : Reader TypeText := do
  let left ← opening "("
  if ← ahead (startsOperator "?") then
    let (trait, _) ← nested.traitBound
    let right ← closing
    let more ← nested.addedBounds
    let tokens := left ++ trait.tokens ++ right ++ more.tokens
    if more.tokens.isEmpty then return ⟨tokens, trait.form, trait.isOpen⟩
    else return .plain tokens more.isOpen
  let types ← separated "," (startsKind .closing) (nested.type true) nested.bound
  let right ← closing
  let written := joined (types.map fun (type, comma) => (type.tokens, comma))
  match types with
  | [(type, [])] =>
      let isBounded ← ahead (startsOperator "+")
      match type.form.trait? type.tokens, plus && isBounded with
      | some trait, true =>
          let more ← nested.addedBounds
          return .plain (left ++ trait ++ right ++ more.tokens) more.isOpen
      | _, _ => return ⟨left ++ written ++ right, .parenthesized, false⟩
  | _ => return .plain (left ++ written ++ right) false

/-! ## Types -/

/-- A type that begins with a path: the path, a macro call, or bounds. -/
def pathType (nested : Nested) (binding : List Token) (plus : Bool) : Reader TypeText := do
  let path ← nested.typePath
  if path.isQualified then return path.type
  if path.isPlain && (← ahead startsCall) then
    return .plain (path.tokens ++ (← call)) false
  let tokens := binding ++ path.tokens
  let more ← if plus then nested.addedBounds else pure ⟨[], false⟩
  if !more.tokens.isEmpty then return .plain (tokens ++ more.tokens) more.isOpen
  else if binding.isEmpty then return path.type
  else return ⟨tokens, .trait tokens, path.isOpen⟩

/-- An array or slice type. -/
def arrayType (nested : Nested) : Reader TypeText := do
  let tokens ← enclosed "[" do
    let item ← nested.type true
    let semicolon ← operatorIf ";"
    let length ← if semicolon.isEmpty then pure [] else nested.expression .full
    return item.tokens ++ semicolon ++ length
  return .plain tokens false

/-- A reference or pointer type. -/
def referenceType (nested : Nested) : Reader TypeText := do
  let isPointer ← ahead (startsOperator "*")
  let mark ← if isPointer then operator "*" else operator "&"
  let region ← lifetimeIf
  let mode ← onlyIf (fun tokens => startsWord "const" tokens || startsWord "mut" tokens)
    (one fun _ => true)
  let target ← nested.type false
  return .plain (mark ++ region ++ mode ++ target.tokens) target.isOpen

/-- A type of the compiler's own. -/
def builtinType : Reader (List Token) := do
  let lead ← word "builtin"
  let mark ← operator "#"
  let name ← name
  return lead ++ mark ++ name ++ (← onlyIf (startsOpening "(") group)

/-- A type.  Bounds may be added to it only if `plus` holds. -/
def typeText (nested : Nested) (plus : Bool) : Reader TypeText := do
  let start ← get
  let binding ← nested.binder
  let tokens ← get
  if startsOpening "(" tokens then nested.roundType plus
  else if startsFunctionType tokens then nested.functionType binding
  else if startsBuiltin tokens then
    let _ ← builtinType
    return .plain (← since start) false
  else if startsPath tokens then nested.pathType binding plus
  else if startsWord "dyn" tokens then
    let lead ← word "dyn"
    let star ← operatorIf "*"
    let bounds ← nested.wordBounds plus
    if star.isEmpty then return .plain (lead ++ bounds.tokens) bounds.isOpen
    else return .plain (← since start) false
  else if startsWord "impl" tokens then
    let lead ← word "impl"
    let bounds ← nested.wordBounds plus
    return .plain (lead ++ bounds.tokens) bounds.isOpen
  else if startsOpening "[" tokens then nested.arrayType
  else if startsOperator "*" tokens || startsOperator "&" tokens then nested.referenceType
  else if startsKind .lifetime tokens then
    let bounds ← nested.boundsText
    return .plain bounds.tokens bounds.isOpen
  else if startsOperator "!" tokens then return .plain (← operator "!") false
  else return .plain (← word "_") false

end ObjectBridge.Source.Nested
