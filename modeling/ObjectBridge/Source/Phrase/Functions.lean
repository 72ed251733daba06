import ObjectBridge.Source.Block
import ObjectBridge.Source.Phrase.Generics
import ObjectBridge.Source.Phrase.Patterns

/-!
# Reading signatures

The signature of a function: how it is declared, its parameters, and what it returns.  A
receiver stands in front of all other parameters, and what stands for a variable number of
arguments after them.  A parameter that is only a type which begins with a name and its
arguments has the wildcard for its pattern.
-/

namespace ObjectBridge.Source

/-- What a parameter is. -/
inductive ParameterForm where
  | receiver (form : ReceiverForm)
  | typed (isSimple : Bool) (type : List Token)
  /-- What stands for a variable number of arguments. -/
  | variadic
deriving DecidableEq, Repr

/-- A parameter as it is written. -/
structure ParameterText where
  tokens : List Token
  form : ParameterForm
deriving DecidableEq, Repr

namespace ParameterForm

/-- How a parameter takes the receiver, if it does. -/
def receiver? : ParameterForm → Option ReceiverForm
  | receiver form => some form
  | typed .. | variadic => none

/-- Whether no parameter but the first is a receiver, and none but the last stands for a
variable number of arguments. -/
def areInPlace (forms : List ParameterForm) : Bool :=
  forms.tail.all (·.receiver?.isNone) && forms.dropLast.all (· != .variadic)

end ParameterForm

/-- A signature as it is written. -/
structure Signature where
  tokens : List Token
  isAsync : Bool
  name : String
  parameters : List ParameterForm
  inPlace : ParameterForm.areInPlace parameters = true
  output : Option TypeText
deriving DecidableEq, Repr

/-- How a function takes its receiver, if it has one.  It is the first parameter. -/
def Signature.receiver? (signature : Signature) : Option ReceiverForm :=
  signature.parameters.head?.bind ParameterForm.receiver?

namespace Reader

/-- A visibility, if there is one. -/
def visibility : Reader (List Token) :=
  onlyIf (startsWord "pub") do
    let lead ← word "pub"
    return lead ++ (← onlyIf startsRestriction group)

end Reader

namespace Nested

open Reader

/-! ## Parameters -/

/-- A receiver.  Only one that begins with `&` is a reference, which a lifetime may
follow; one that is taken by value may have a type. -/
def receiver (nested : Nested) : Reader ParameterText := do
  let reference ← operatorIf "&"
  let region ← if reference.isEmpty then pure [] else lifetimeIf
  let mode ← wordIf "mut"
  let name ← word "self"
  let type ← onlyIf (fun tokens => reference.isEmpty && startsOperator ":" tokens) do
    let sign ← operator ":"
    return sign ++ (← nested.type true).tokens
  let form :=
    if reference.isEmpty then ReceiverForm.byValue
    else if mode.isEmpty then .shared
    else .mutable
  return ⟨reference ++ region ++ mode ++ name ++ type, .receiver form⟩

/-- A parameter with its attributes. -/
def parameterText (nested : Nested) : Reader ParameterText := do
  let attributes ← nested.outerAttributes
  let tokens ← get
  if startsOperator "..." tokens then
    return ⟨attributes ++ (← operator "..."), .variadic⟩
  else if startsReceiver tokens then
    let receiver ← nested.receiver
    return { receiver with tokens := attributes ++ receiver.tokens }
  else if startsName tokens && startsOperator "<" (tokens.drop 1) then
    let type ← nested.type true
    return ⟨attributes ++ [⟨.word, "_"⟩, .alone ":"] ++ type.tokens, .typed true type.tokens⟩
  else
    let pattern ← nested.pattern
    let sign ← operator ":"
    if ← ahead (startsOperator "...") then
      return ⟨attributes ++ pattern.tokens ++ sign ++ (← operator "..."), .variadic⟩
    let type ← nested.type true
    return ⟨attributes ++ pattern.tokens ++ sign ++ type.tokens,
      .typed (pattern.form == .simple) type.tokens⟩

/-! ## Signatures -/

/-- The signature of a function.  One with a parameter out of place is refused. -/
def signature (nested : Nested) : Reader Signature := do
  let constancy ← wordIf "const"
  let asynchrony ← wordIf "async"
  let safety ← span fun token => token.isWord "unsafe" || token.isWord "safe"
  let convention ← convention
  let lead ← word "fn"
  let name ← token Token.isName
  let generics ← nested.generics
  let left ← opening "("
  let parameters ← separated "," (startsKind .closing) nested.parameterText nested.bound
  let right ← closing
  let output ← nested.output true
  let clause ← nested.whereClause
  let inputs := joined (parameters.map fun (found, comma) => (found.tokens, comma))
  let forms := parameters.map (·.1.form)
  if inPlace : ParameterForm.areInPlace forms = true then
    return {
      tokens := constancy ++ asynchrony ++ safety ++ convention ++ lead ++ [name] ++ generics ++
        left ++ inputs ++ right ++ outputTokens output ++ clause
      isAsync := !asynchrony.isEmpty
      name := name.text
      parameters := forms
      inPlace := inPlace
      output := output }
  else failure

end Nested

end ObjectBridge.Source
