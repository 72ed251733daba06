import ObjectBridge.Source.Phrase.Types

/-!
# Reading generics

Generic parameters are written with lifetimes first.  What is empty is left out: brackets
without parameters, the colon of a parameter without bounds, and a clause without
constraints.
-/

namespace ObjectBridge.Source.Nested

open Reader

/-- Bounds after a colon, if there are any; without bounds the colon is left out. -/
def colonBounds (nested : Nested) : Reader (List Token) :=
  onlyIf (startsOperator ":") do
    let sign ← operator ":"
    let bounds ← nested.boundsText
    return if bounds.tokens.isEmpty then [] else sign ++ bounds.tokens

/-- A type after an equals sign, if there is one. -/
def equalType (nested : Nested) : Reader (List Token) :=
  onlyIf (startsOperator "=") do
    let sign ← operator "="
    return sign ++ (← nested.type true).tokens

/-- A generic parameter: a lifetime, a constant or a type. -/
def genericParameter (nested : Nested) : Reader GenericArgument := do
  let attributes ← nested.outerAttributes
  let tokens ← get
  if startsKind .lifetime tokens then
    let name ← lifetime
    return ⟨true, attributes ++ name ++ (← nested.colonBounds)⟩
  else if startsWord "const" tokens then
    let lead ← word "const"
    let name ← name
    let sign ← operator ":"
    let type ← nested.type true
    let default ← onlyIf (startsOperator "=") do
      let sign ← operator "="
      return sign ++ (← nested.constant)
    return ⟨false, attributes ++ lead ++ name ++ sign ++ type.tokens ++ default⟩
  else
    let name ← name
    let bounds ← nested.colonBounds
    return ⟨false, attributes ++ name ++ bounds ++ (← nested.equalType)⟩

/-- Generic parameters with their angle brackets, if there are brackets. -/
def generics (nested : Nested) : Reader (List Token) :=
  onlyIf (startsOperator "<") do
    let left ← operator "<"
    let parameters ← separated "," (startsOperator ">") nested.genericParameter nested.bound
    let right ← operator ">"
    return if parameters.isEmpty then [] else left ++ arrange parameters ++ right

/-- A constraint: the bounds of a lifetime or of a type. -/
def constraint (nested : Nested) : Reader (List Token) := do
  let tokens ← get
  let subject ←
    if startsKind .lifetime tokens && startsOperator ":" (tokens.drop 1) then lifetime
    else do
      let binding ← nested.binder
      pure (binding ++ (← nested.type true).tokens)
  let sign ← operator ":"
  return subject ++ sign ++ (← nested.boundsText).tokens

/-- A clause of constraints, if there is one. -/
def whereClause (nested : Nested) : Reader (List Token) :=
  onlyIf (startsWord "where") do
    let lead ← word "where"
    let constraints ← joined <$> separated "," endsConstraints nested.constraint nested.bound
    return if constraints.isEmpty then [] else lead ++ constraints

end ObjectBridge.Source.Nested
