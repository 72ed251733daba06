import ObjectBridge.Source.Phrase.Expressions
import ObjectBridge.Source.Phrase.Items

/-!
# Reading statements

A block holds declarations, items, expressions and bare semicolons.
-/

namespace ObjectBridge.Source.Nested

open Reader

/-- A declaration of names, possibly with what is done if the pattern does not fit. -/
def declaration (nested : Nested) : Reader (List Token) := do
  let lead ← word "let"
  let pattern ← nested.pattern
  let type ← onlyIf (startsOperator ":") do
    let sign ← operator ":"
    return sign ++ (← nested.type true).tokens
  let value ← nested.equalValue
  let otherwise ← onlyIf (startsWord "else") do
    let sign ← word "else"
    return sign ++ (← nested.block)
  return lead ++ pattern.tokens ++ type ++ value ++ otherwise ++ (← operator ";")

/-- A statement. -/
def statement (nested : Nested) : Reader (List Token) := do
  let start ← get
  if startsOperator ";" start then operator ";"
  else
    let attributes ← nested.outerAttributes
    let tokens ← get
    if startsWord "let" tokens then return attributes ++ (← nested.declaration)
    else if startsItem tokens then nested.itemAfter start attributes
    else
      let expression ← nested.standing .statement attributes
      return expression ++ (← operatorIf ";")

/-- Statements between braces, after attributes of the block. -/
def blockText (nested : Nested) : Reader (List Token) :=
  nested.body nested.statement

end ObjectBridge.Source.Nested
