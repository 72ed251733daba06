import ObjectBridge.Source.Phrase.Paths

/-!
# Reading bounds

The lifetimes that a relaxed bound binds are written after its mark.  A bound that holds
in constant contexts stands as it is.
-/

namespace ObjectBridge.Source.Nested

open Reader

/-- The lifetimes that a bound or a type binds, if it binds any. -/
def binder (nested : Nested) : Reader (List Token) :=
  onlyIf (startsWord "for") do
    let lead ← word "for"
    let left ← operator "<"
    let parameters ← separated "," (startsOperator ">") nested.parameter nested.bound
    let right ← operator ">"
    return lead ++ left ++ joined (parameters.map fun (found, comma) => (found.tokens, comma)) ++
      right

/-- The mark that makes a bound conditional or constant, if there is one. -/
def constancy : Reader (List Token) := do
  let tokens ← get
  if startsOperator "~" tokens then
    let sign ← operator "~"
    return sign ++ (← word "const")
  else if startsOpening "[" tokens then group
  else wordIf "const"

/-- A trait as a bound without parentheses, and whether it stands as it is. -/
def traitBound (nested : Nested) : Reader (TypeText × Bool) := do
  let before ← nested.binder
  let constancy ← constancy
  let relaxed ← operatorIf "?"
  let after ← nested.binder
  let path ← nested.typePath
  let tokens := relaxed ++ before ++ after ++ path.tokens
  return (⟨tokens, .trait tokens, path.isOpen⟩, !constancy.isEmpty)

/-- A bound: a lifetime, a list of captured names, or a trait, which parentheses may stand
around. -/
def singleBound (nested : Nested) : Reader BoundText := do
  let start ← get
  if startsKind .lifetime start then
    return ⟨← lifetime, false⟩
  else if startsWord "use" start then
    let lead ← word "use"
    let (arguments, _) ← nested.genericArguments
    return ⟨lead ++ arguments, false⟩
  else
    let left ← onlyIf (startsOpening "(") (opening "(")
    let (trait, isCopied) ← nested.traitBound
    let right ← if left.isEmpty then pure [] else closing
    if isCopied then return ⟨← since start, false⟩
    else return ⟨left ++ trait.tokens ++ right, trait.isOpen⟩

/-- Bounds with plus signs between them; a sign may stand last. -/
def boundsText (nested : Nested) : Reader BoundsText :=
  .ofList <$> separated "+" (!startsBound ·) nested.singleBound nested.bound

/-- Bounds that follow a word: one, or more if a plus sign may follow it. -/
def wordBounds (nested : Nested) (plus : Bool) : Reader BoundsText := do
  guard (← ahead startsBound)
  if plus then nested.boundsText
  else return .ofList [(← nested.singleBound, [])]

/-- Bounds that are added to a type after a plus sign, if there is one. -/
def addedBounds (nested : Nested) : Reader BoundsText := do
  if ← ahead (startsOperator "+") then
    let sign ← operator "+"
    let bounds ← nested.boundsText
    return ⟨sign ++ bounds.tokens, bounds.isOpen⟩
  else return ⟨[], false⟩

end ObjectBridge.Source.Nested
