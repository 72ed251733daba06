import ObjectBridge.Source.Phrase

/-!
# Reading paths

Among generic arguments lifetimes come first, and a comma is put after the last of them if
it has none and others follow.  The separator before the parenthesized arguments of a path
is left out, and so are empty generic arguments there.
-/

namespace ObjectBridge.Source

namespace Reader

/-- A literal, with a sign if it is a number. -/
def literal : Reader (List Token) := do
  guard (← ahead startsLiteral)
  let sign ← operatorIf "-"
  return sign ++ (← one fun _ => true)

end Reader

/-- Where a path stands: in a type angle brackets open arguments, in an expression only
after a separator. -/
inductive PathPlace where
  | type
  | expression
deriving DecidableEq, Repr

/-- Whether tokens begin the generic arguments of a name in a path. -/
def startsArguments (place : PathPlace) (tokens : List Token) : Bool :=
  (place == .type && startsAngle tokens) || startsSeparatedAngle tokens

namespace Nested

open Reader

/-! ## Generic arguments -/

/-- A constant: a literal, a block or a name. -/
def constant (nested : Nested) : Reader (List Token) := do
  let tokens ← get
  if startsLiteral tokens then literal
  else if startsOpening "\x7b" tokens then nested.block
  else name

/-- A generic argument: a lifetime, a constant, a type, or what an associated type or
constant is or is bound by. -/
def genericArgument (nested : Nested) : Reader GenericArgument := do
  let tokens ← get
  if startsKind .lifetime tokens && !startsOperator "+" (tokens.drop 1) then
    return ⟨true, ← lifetime⟩
  else if startsConstant tokens then return ⟨false, ← nested.constant⟩
  else
    let type ← nested.type true
    match type.form with
    | .name _ =>
        if ← ahead (startsOperator "=") then
          let sign ← operator "="
          let isConstant ← ahead startsConstant
          let value ← if isConstant then nested.constant else (·.tokens) <$> nested.type true
          return ⟨false, type.tokens ++ sign ++ value⟩
        else if ← ahead (startsOperator ":") then
          let sign ← operator ":"
          return ⟨false, type.tokens ++ sign ++ (← nested.bounds).tokens⟩
        else return ⟨false, type.tokens⟩
    | _ => return ⟨false, type.tokens⟩

/-- Generic arguments with their angle brackets. -/
def genericArguments (nested : Nested) : Reader (List Token × ArgumentForm) := do
  let left ← operator "<"
  let arguments ← separated "," (startsOperator ">") nested.genericArgument nested.bound
  let right ← operator ">"
  let form := if arguments.isEmpty then ArgumentForm.empty else .angled
  return (left ++ arrange arguments ++ right, form)

/-- What a function returns, if that is said. -/
def output (nested : Nested) (plus : Bool) : Reader (Option TypeText) := do
  if ← ahead (startsOperator "->") then
    let _ ← operator "->"
    some <$> nested.type plus
  else return none

/-! ## Names -/

/-- The names of a path after what is read of it and a separator.  The last argument but
two bounds their number. -/
def names (nested : Nested) (place : PathPlace) : Nat → PathText → List Token → Reader PathText
  | 0, _, _ => failure
  | bound + 1, path, separator => do
      let name ← token Token.isPathName
      let hasArguments ← ahead (startsArguments place)
      let (arguments, form) ←
        if hasArguments && !name.standsAlone then do
          let colons ← operatorIf "::"
          let (arguments, form) ← nested.genericArguments
          pure (colons ++ arguments, form)
        else pure ([], ArgumentForm.absent)
      let path := path.push separator name arguments form
      if ← ahead startsNextName then
        let separator ← operator "::"
        nested.names place bound path separator
      else return path

/-- Parenthesized arguments of the last name of a path, if there are any.  More names may
follow them unless they lead to a type without parentheses.  The last argument but one
bounds the number of such arguments. -/
def roundArguments (nested : Nested) : Nat → PathText → Reader PathText
  | 0, _ => failure
  | bound + 1, path => do
      let tokens ← get
      let isRound := startsOpening "(" tokens || startsSeparatedRound tokens
      if isRound && (path.form == .absent || path.form == .empty) then
        let _ ← operatorIf "::"
        let arguments ← listed "(" ((·.tokens) <$> nested.type true) nested.bound
        let output ← nested.output false
        let path := { path with
          arguments := arguments ++ outputTokens output
          form := .parenthesized
          isPlain := false
          isOpen := output.any (·.isOpen) }
        if output.all (·.form == .parenthesized) && (← ahead startsNextName) then
          let separator ← operator "::"
          nested.names .type nested.bound path separator >>= nested.roundArguments bound
        else return path
      else return path

/-- A path that begins with a name. -/
def namePath (nested : Nested) (place : PathPlace) : Reader PathText := do
  let separator ← operatorIf "::"
  nested.names place nested.bound (.lead separator false) []

/-- A type between angle brackets, possibly as something, and a separator. -/
def qualifier (nested : Nested) : Reader (List Token) := do
  let left ← operator "<"
  let type ← nested.type true
  let role ← onlyIf (startsWord "as") do
    let sign ← word "as"
    let path ← nested.namePath .type >>= nested.roundArguments nested.bound
    return sign ++ path.tokens
  let right ← operator ">"
  return left ++ type.tokens ++ role ++ right ++ (← operator "::")

/-- A path, possibly of a type between angle brackets. -/
def path (nested : Nested) (place : PathPlace) : Reader PathText := do
  if ← ahead (startsOperator "<") then
    let lead ← nested.qualifier
    nested.names place nested.bound (.lead lead true) []
  else nested.namePath place

/-- A path in a type, where the last name may have parenthesized arguments. -/
def typePath (nested : Nested) : Reader PathText :=
  nested.path .type >>= nested.roundArguments nested.bound

end Nested

end ObjectBridge.Source
