import ObjectBridge.Source.Phrase.Types
import ObjectBridge.Source.Phrase.Members

/-!
# Reading patterns

A range whose end belongs to it is written with an equals sign, also if it was written
with three points.  A boxed pattern stands as it is.
-/

namespace ObjectBridge.Source

/-! ## What a pattern begins with -/

/-- Whether tokens begin a pattern that begins with a path of its own or a macro call. -/
def startsPathPattern (tokens : List Token) : Bool :=
  let next := tokens.drop 1
  (startsName tokens && (["::", "!", ".."].any (startsOperator · next) ||
      ["\x7b", "("].any (startsOpening · next))) ||
    (startsWord "self" tokens && startsOperator "::" next) ||
    ["::", "<"].any (startsOperator · tokens) ||
    ["Self", "super", "crate"].any (startsWord · tokens)

/-- Whether tokens begin with a bar between patterns. -/
def startsAlternative (tokens : List Token) : Bool :=
  startsOperator "|" tokens && !startsOperator "||" tokens && !startsOperator "|=" tokens

/-- Whether a range pattern that has no end yet ends where tokens begin. -/
def endsPatternRange (tokens : List Token) : Bool :=
  tokens.isEmpty || startsKind .closing tokens || startsColon tokens ||
    ["if", "in"].any (startsWord · tokens) || ["|", "=", ",", ";"].any (startsOperator · tokens)

namespace Nested

open Reader

/-! ## Ranges -/

/-- A bound of a range pattern: a literal, a constant block or a path. -/
def rangeBound (nested : Nested) : Reader (List Token) := do
  let tokens ← get
  if startsLiteral tokens then literal
  else if startsWord "const" tokens then
    let lead ← word "const"
    return lead ++ (← nested.block)
  else (·.tokens) <$> nested.path .expression

/-- The marks of a range pattern; three points are written as those of a range whose end
belongs to it. -/
def patternLimit : Reader (List Token) := do
  let tokens ← get
  if startsOperator "..." tokens then
    let _ ← operator "..."
    return [⟨.mark true, "."⟩, ⟨.mark true, "."⟩, .alone "="]
  else if startsOperator "..=" tokens then operator "..="
  else operator ".."

/-- What follows the first bound of a range, if there is one: the rest of the range, or
nothing if it is no range.  Two points alone stand for any number of patterns. -/
def rangePattern (nested : Nested) (first : List Token) : Reader Pattern := do
  if ← ahead (startsOperator "..") then
    let limit ← patternLimit
    let last ← onlyIf (!endsPatternRange ·) nested.rangeBound
    return ⟨first ++ limit ++ last, if first.isEmpty && last.isEmpty then .other else .range⟩
  else return ⟨first, .other⟩

/-! ## Alternatives -/

/-- Patterns with bars between them; a bar may stand first. -/
def alternatives (nested : Nested) : Reader (List Token) := do
  let lead ← operatorIf "|"
  let first ← nested.pattern
  let others ← repeated (!startsAlternative ·)
    (do return (← operator "|") ++ (← nested.pattern).tokens) nested.bound
  return lead ++ first.tokens ++ others.flatten

/-! ## Structures -/

/-- A field of a structure in a pattern, or the mark for those that are left. -/
def fieldPattern (nested : Nested) : Reader (List Token) := do
  let attributes ← nested.outerAttributes
  if ← ahead (startsOperator "..") then return attributes ++ (← operator "..")
  let mode ← span fun token => ["box", "ref", "mut"].any token.isWord
  let member ← member
  let value ← onlyIf (startsOperator ":") do
    let sign ← operator ":"
    return sign ++ (← nested.alternatives)
  return attributes ++ mode ++ member ++ value

/-- A pattern that begins with a path. -/
def pathPattern (nested : Nested) : Reader Pattern := do
  let path ← nested.path .expression
  let tokens ← get
  if startsCall tokens && path.isPlain && !path.isQualified then
    return ⟨path.tokens ++ (← call), .other⟩
  else if startsOpening "\x7b" tokens then
    return ⟨path.tokens ++ (← listed "\x7b" nested.fieldPattern nested.bound), .other⟩
  else if startsOpening "(" tokens then
    return ⟨path.tokens ++ (← listed "(" nested.alternatives nested.bound), .other⟩
  else nested.rangePattern path.tokens

/-! ## Patterns -/

/-- A name, possibly with a pattern of its own. -/
def namePattern (nested : Nested) : Reader Pattern := do
  let mode ← span fun token => token.isWord "ref" || token.isWord "mut"
  let name ← one fun token => token.isName || token.isWord "self"
  let detail ← onlyIf (startsOperator "@") do
    let sign ← operator "@"
    return sign ++ (← nested.pattern).tokens
  return ⟨mode ++ name ++ detail, .simple⟩

/-- A pattern without alternatives. -/
def singlePattern (nested : Nested) : Reader Pattern := do
  let tokens ← get
  if startsPathPattern tokens then nested.pathPattern
  else if startsWord "_" tokens then return ⟨← word "_", .simple⟩
  else if startsWord "box" tokens then
    let _ ← word "box"
    let _ ← nested.pattern
    return ⟨← since tokens, .copied⟩
  else if startsLiteral tokens || startsWord "const" tokens then
    nested.rangeBound >>= nested.rangePattern
  else if startsOperator "&" tokens then
    let mark ← operator "&"
    let mode ← wordIf "mut"
    return ⟨mark ++ mode ++ (← nested.pattern).tokens, .other⟩
  else if startsOpening "(" tokens then
    return ⟨← listed "(" nested.alternatives nested.bound, .other⟩
  else if startsOpening "[" tokens then
    return ⟨← listed "[" nested.alternatives nested.bound, .other⟩
  else if startsOperator ".." tokens then nested.rangePattern []
  else nested.namePattern

end Nested

end ObjectBridge.Source
