import ObjectBridge.Source.Phrase.Statements

/-!
# Reading phrases of any depth

The readers of phrases, tied together: those of one depth are given those of the depth
below it.
-/

namespace ObjectBridge.Source

/-- The readers of phrases that are nested up to a depth. -/
def Nested.ofDepth : Nat → Nested
  | 0 => .refused
  | depth + 1 => {
      bound := depth + 1
      type := fun plus => (ofDepth depth).typeText plus
      bounds := fun tokens => (ofDepth depth).boundsText tokens
      parameter := fun tokens => (ofDepth depth).genericParameter tokens
      pattern := fun tokens => (ofDepth depth).singlePattern tokens
      operand := fun structs tokens =>
        ((ofDepth depth).operandText structs tokens).map fun (found, rest) => (found.tokens, rest)
      expression := fun extent tokens => (ofDepth depth).expressionText extent tokens
      branch := fun tokens => (ofDepth depth).branchText tokens
      block := fun tokens => (ofDepth depth).blockText tokens
      item := fun tokens => (ofDepth depth).itemWithAttributes tokens }

end ObjectBridge.Source
