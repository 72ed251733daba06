import ObjectBridge.Source.Phrase

/-!
# Attributes of phrases

An attribute is written as it stands but for a value after an equals sign, which is an
expression like any other.
-/

namespace ObjectBridge.Source.Nested

open Reader

/-- An attribute; one that stands inside what it describes has a mark of its own. -/
def attributeText (nested : Nested) (isInner : Bool) : Reader (List Token) := do
  let sign ← operator "#"
  let place ← if isInner then operator "!" else pure []
  let content ← enclosed "[" do
    let path ← span fun token => token.kind == .word || (token.isMark && token.text == ":")
    if ← ahead (startsOperator "=") then
      let equals ← operator "="
      return path ++ equals ++ (← nested.expression .full)
    else return path ++ (← inside)
  return sign ++ place ++ content

/-- As many attributes of one sort as there are. -/
def attributes (nested : Nested) (isInner : Bool) : Reader (List Token) :=
  List.flatten <$>
    repeated (!startsAttribute isInner ·) (nested.attributeText isInner) nested.bound

/-- Attributes of what comes next. -/
def outerAttributes (nested : Nested) : Reader (List Token) := nested.attributes false

/-- Attributes of what is open. -/
def innerAttributes (nested : Nested) : Reader (List Token) := nested.attributes true

end ObjectBridge.Source.Nested
