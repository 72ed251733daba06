import ObjectBridge.Source.Phrase.Generics
import ObjectBridge.Source.Phrase.Patterns

/-!
# Reading operands

An operand is an atom with what is applied to it: prefix marks before it and calls,
indices and members after it.  An atom that goes to the end of its expression, such as a
closure, is an operand too.  Phrases of the compiler's own stand as they are, with their
attributes.
-/

namespace ObjectBridge.Source

/-- What of an operand bears on what is written around it. -/
inductive OperandForm where
  /-- A range without a start. -/
  | range
  /-- A phrase that is written as it stands. -/
  | copied
  | other
deriving DecidableEq, Repr

/-- An operand as it is written. -/
structure Operand where
  tokens : List Token
  form : OperandForm
deriving DecidableEq, Repr

namespace Nested

open Reader

/-! ## Expressions that end with a block -/

/-- An expression that braces follow. -/
def condition (nested : Nested) : Reader (List Token) := nested.expression ⟨false, .all⟩

/-- A conditional expression with its other branches.  The last argument bounds their
number. -/
def conditional (nested : Nested) : Nat → Reader (List Token)
  | 0 => failure
  | bound + 1 => do
      let lead ← word "if"
      let test ← nested.condition
      let branch ← nested.block
      let others ← onlyIf (startsWord "else") do
        let lead ← word "else"
        let isConditional ← ahead (startsWord "if")
        return lead ++ (← if isConditional then nested.conditional bound else nested.block)
      return lead ++ test ++ branch ++ others

/-- A label, if there is one. -/
def labelIf : Reader (List Token) :=
  onlyIf (startsKind .lifetime) do
    let label ← lifetime
    return label ++ (← operator ":")

/-- A loop with its block. -/
def loop (nested : Nested) : Reader (List Token) := do
  let tokens ← get
  if startsWord "for" tokens then
    let lead ← word "for"
    let pattern ← nested.alternatives
    let sign ← word "in"
    let source ← nested.condition
    return lead ++ pattern ++ sign ++ source ++ (← nested.block)
  else if startsWord "while" tokens then
    let lead ← word "while"
    let test ← nested.condition
    return lead ++ test ++ (← nested.block)
  else
    let lead ← word "loop"
    return lead ++ (← nested.block)

/-- A choice by patterns. -/
def choice (nested : Nested) : Reader (List Token) := do
  let lead ← word "match"
  let subject ← nested.condition
  let branches ← enclosed "\x7b" do
    let attributes ← nested.innerAttributes
    let branches ← repeated (startsKind .closing) nested.branch nested.bound
    return attributes ++ branches.flatten
  return lead ++ subject ++ branches

/-- An expression that ends with its block. -/
def blockLike (nested : Nested) : Reader (List Token) := do
  let label ← labelIf
  let tokens ← get
  let found ←
    if startsWord "if" tokens then nested.conditional nested.bound
    else if startsWord "match" tokens then nested.choice
    else if ["for", "while", "loop"].any (startsWord · tokens) then nested.loop
    else do
      let lead ← span fun token => ["try", "const", "unsafe"].any token.isWord
      pure (lead ++ (← nested.block))
  return label ++ found

/-! ## Atoms -/

/-- Expressions in brackets that open with a given one. -/
def expressions (nested : Nested) (bracket : String) : Reader (List Token) :=
  listed bracket (nested.expression .full) nested.bound

/-- An array: its items, or one item and how often it is repeated. -/
def array (nested : Nested) : Reader (List Token) :=
  enclosed "[" do
    let items ← separated "," (startsKind .closing) (nested.expression .full) nested.bound
    let repetition ← onlyIf (startsOperator ";") do
      let sign ← operator ";"
      return sign ++ (← nested.expression .full)
    return joined items ++ repetition

/-- A field of a structure, or what the fields that are left are taken from. -/
def field (nested : Nested) : Reader (List Token) := do
  if ← ahead (startsOperator "..") then
    let mark ← operator ".."
    return mark ++ (← onlyIf (!startsKind .closing ·) (nested.expression .full))
  let attributes ← nested.outerAttributes
  let member ← member
  let value ← onlyIf (startsOperator ":") do
    let sign ← operator ":"
    return sign ++ (← nested.expression .full)
  return attributes ++ member ++ value

/-- An atom that begins with a path: the path, a macro call or a structure. -/
def pathAtom (nested : Nested) (structs : Bool) : Reader (List Token) := do
  let path ← nested.path .expression
  let tokens ← get
  if startsCall tokens && path.isPlain && !path.isQualified then return path.tokens ++ (← call)
  else if structs && startsOpening "\x7b" tokens then
    return path.tokens ++ (← listed "\x7b" nested.field nested.bound)
  else return path.tokens

/-- A parameter of a closure.  A range with attributes is put in parentheses; a pattern
that stands as it is loses them. -/
def closureParameter (nested : Nested) : Reader (List Token) := do
  let attributes ← nested.outerAttributes
  let pattern ← nested.pattern
  if ← ahead (startsOperator ":") then
    let sign ← operator ":"
    return attributes ++ pattern.tokens ++ sign ++ (← nested.type true).tokens
  else if attributes.isEmpty then return pattern.tokens
  else
    match pattern.form with
    | .range => return attributes ++ parenthesize pattern.tokens
    | .copied => return pattern.tokens
    | .simple | .other => return attributes ++ pattern.tokens

/-- A closure. -/
def closure (nested : Nested) (structs : Bool) : Reader (List Token) := do
  let binding ← nested.binder
  let modes ← span fun token => ["const", "static", "async", "move"].any token.isWord
  let left ← operator "|"
  let parameters ←
    joined <$> separated "," (startsOperator "|") nested.closureParameter nested.bound
  let right ← operator "|"
  let output ← nested.output true
  let body ← if output.isSome then nested.block else nested.expression ⟨structs, .all⟩
  return binding ++ modes ++ left ++ parameters ++ right ++ outputTokens output ++ body

/-- A jump: a word, possibly with a label and a value. -/
def jump (nested : Nested) (structs : Bool) : Reader (List Token) := do
  let lead ← one fun _ => true
  let label ← if lead.any (·.isWord "break") then lifetimeIf else pure []
  let isBraced ← ahead (startsOpening "\x7b")
  let refuses := lead.any (·.isWord "break") && !structs && isBraced
  let value ← onlyIf (startsExpression · && !refuses) (nested.expression .full)
  return lead ++ label ++ value

/-- A range without a start. -/
def openRange (nested : Nested) (structs : Bool) : Reader (List Token) := do
  let isClosed ← ahead (startsOperator "..=")
  let limit ← if isClosed then operator "..=" else operator ".."
  let last ← onlyIf (isClosed || !endsRange structs ·) (nested.expression ⟨structs, .rangeEnd⟩)
  return limit ++ last

/-- A phrase of the compiler's own. -/
def builtinAtom : Reader (List Token) := do
  let lead ← word "builtin"
  let mark ← operator "#"
  let name ← name
  return lead ++ mark ++ name ++ (← group)

/-- An atom. -/
def atom (nested : Nested) (structs : Bool) : Reader Operand := do
  let tokens ← get
  let other (reader : Reader (List Token)) : Reader Operand := do return ⟨← reader, .other⟩
  if startsUnsigned tokens then other literal
  else if startsAsyncBlock tokens then
    other do
      let modes ← span fun token => token.isWord "async" || token.isWord "move"
      return modes ++ (← nested.block)
  else if startsBlockLike tokens then other nested.blockLike
  else if startsClosure tokens then other (nested.closure structs)
  else if startsBuiltin tokens then return ⟨← builtinAtom, .copied⟩
  else if startsPath tokens then other (nested.pathAtom structs)
  else if startsOpening "(" tokens then other (nested.expressions "(")
  else if startsOpening "[" tokens then other nested.array
  else if ["break", "return", "yield"].any (startsWord · tokens) then other (nested.jump structs)
  else if startsWord "continue" tokens then
    other do
      let lead ← word "continue"
      return lead ++ (← lifetimeIf)
  else if startsWord "become" tokens then
    let _ ← word "become"
    let _ ← nested.expression .full
    return ⟨← since tokens, .copied⟩
  else if startsWord "let" tokens then
    other do
      let lead ← word "let"
      let pattern ← nested.alternatives
      let sign ← operator "="
      return lead ++ pattern ++ sign ++ (← nested.expression ⟨structs, .subject⟩)
  else if startsOperator ".." tokens then return ⟨← nested.openRange structs, .range⟩
  else other (word "_")

/-! ## Operands -/

/-- What is applied to an operand after it.  The last argument bounds the number of
steps. -/
def applications (nested : Nested) : Nat → Reader (List Token)
  | 0 => failure
  | bound + 1 => do
      let tokens ← get
      let step : Option (Reader (List Token)) :=
        if startsOpening "(" tokens then some (nested.expressions "(")
        else if startsOpening "[" tokens then some (enclosed "[" (nested.expression .full))
        else if startsOperator "?" tokens then some (operator "?")
        else if startsPoint tokens then
          some do
            let access ← access
            let arguments ← onlyIf (startsOperator "::") do
              let separator ← operator "::"
              return separator ++ (← nested.genericArguments).1
            return access ++ arguments
        else none
      match step with
      | some reader =>
          let first ← reader
          return first ++ (← nested.applications bound)
      | none => return []

/-- The mark before an operand that applies to all of it. -/
def prefixMark : Reader (List Token) := do
  let tokens ← get
  if startsOperator "&" tokens then
    let mark ← operator "&"
    let next ← get
    let isRaw := startsWord "raw" next &&
      ["mut", "const"].any (startsWord · (next.drop 1))
    if isRaw then return mark ++ (← word "raw") ++ (← one fun _ => true)
    else return mark ++ (← wordIf "mut")
  else one fun token => ["*", "!", "-"].contains token.text

/-- An operand. -/
def operandText (nested : Nested) (structs : Bool) : Reader Operand := do
  let start ← get
  let attributes ← nested.outerAttributes
  if ← ahead startsPrefixMark then
    let mark ← prefixMark
    return ⟨attributes ++ mark ++ (← nested.operand structs), .other⟩
  let atom ← nested.atom structs
  if atom.form = .range then return { atom with tokens := attributes ++ atom.tokens }
  let applied ← nested.applications nested.bound
  if atom.form = .copied && applied.isEmpty then return ⟨← since start, .copied⟩
  return ⟨attributes ++ atom.tokens ++ applied, .other⟩

end Nested

end ObjectBridge.Source
