import ObjectBridge.Source.Phrase.Operands

/-!
# Reading expressions

Operands and the operators between them are written as they stand, whatever binds tighter.
Parentheses are put in at three places: around casts that lead to a bare name if an angle
bracket follows, which would open arguments of the name; around a range that a statement
gives attributes to; and around a braced macro call that would end its statement.
-/

namespace ObjectBridge.Source

/-! ## Operators -/

/-- Operators that assign. -/
def assignments : List String :=
  ["=", "+=", "-=", "*=", "/=", "%=", "^=", "&=", "|=", "<<=", ">>="]

/-- Operators that connect conditions. -/
def connectives : List String := ["&&", "||"]

/-- The other operators between operands; none stands before a longer one that begins with
it. -/
def binaryOperators : List String :=
  ["<<", ">>", "==", "<=", "!=", ">=", "+", "-", "*", "/", "%", "^", "&", "|", "<", ">"]

/-- The operator between operands that tokens begin with. -/
def operatorAhead? (tokens : List Token) : Option String :=
  let begins (operator : String) : Bool := startsOperator operator tokens
  if begins "=>" then none
  else if begins "==" then some "=="
  else assignments.find? begins <|> connectives.find? begins <|> binaryOperators.find? begins

/-- Whether an operator belongs to an expression of a given reach. -/
def Reach.admits (reach : Reach) (operator : String) : Bool :=
  match reach with
  | all => true
  | rangeEnd => !assignments.contains operator
  | subject => !assignments.contains operator && !connectives.contains operator

/-! ## Chains -/

/-- An operand and the types that it is cast to. -/
structure Chain where
  operand : List Token
  casts : List Token
  form : OperandForm
  /-- Whether the operand would end its statement outside parentheses. -/
  isShielded : Bool
  /-- Whether the last type would take what follows for its arguments. -/
  isEnclosed : Bool
deriving DecidableEq, Repr

/-- The tokens of a chain whose operand is given attributes. -/
def Chain.write (chain : Chain) (attributes : List Token) : List Token :=
  let operand := attributes ++ chain.operand
  if chain.isEnclosed then parenthesize (operand ++ chain.casts)
  else if chain.isShielded then parenthesize operand ++ chain.casts
  else operand ++ chain.casts

/-- Where an expression stands outside brackets. -/
inductive Standing where
  | statement
  | branch
deriving DecidableEq, Repr

/-- The tokens of a chain with attributes before it and the operators after it.  In a
statement the attributes belong to the whole expression if it is a range, and to its first
operand otherwise; one that stands as it is has none. -/
def Chain.assemble (chain : Chain) (place : Standing) (attributes : List Token)
    (rest : List Token) (isRange : Bool) : List Token :=
  let takesAll := chain.form == .range || (place == .statement && isRange)
  if attributes.isEmpty then chain.write [] ++ rest
  else if takesAll then
    attributes ++ parenthesize (Chain.write { chain with isShielded := false } [] ++ rest)
  else if chain.form == .copied then chain.write [] ++ rest
  else chain.write attributes ++ rest

namespace Nested

open Reader

/-- The types that an operand is cast to, and whether the last one ends with a bare name.
The last argument bounds their number. -/
def casts (nested : Nested) : Nat → Reader (List Token × Bool)
  | 0 => failure
  | bound + 1 => do
      let sign ← word "as"
      let type ← nested.type false
      if ← ahead (startsWord "as") then
        let (others, isOpen) ← nested.casts bound
        return (sign ++ type.tokens ++ others, isOpen)
      else return (sign ++ type.tokens, type.isOpen)

/-- The chain that an operand begins. -/
def chain (nested : Nested) (operand : Operand) (isShielded : Bool) : Reader Chain := do
  let isCast ← ahead (startsWord "as")
  let (casts, isOpen) ←
    if isCast && operand.form != .range then nested.casts nested.bound else pure ([], false)
  let isEnclosed ← ahead fun tokens => isOpen && startsAngle tokens
  return ⟨operand.tokens, casts, operand.form, isShielded, isEnclosed⟩

/-- Operators with chains after them, and whether all that is read is a range with what
stands before.  Nothing follows a range.  The last argument bounds the number of
operators. -/
def operations (nested : Nested) (extent : Extent) : Nat → Reader (List Token × Bool)
  | 0 => failure
  | bound + 1 => do
      let tokens ← get
      match operatorAhead? tokens with
      | some sign =>
          if !extent.reach.admits sign then return ([], false)
          let mark ← operator sign
          let operand ← nested.operandText extent.structs
          let chain ← nested.chain operand false
          let (others, isRange) ← nested.operations extent bound
          return (mark ++ chain.write [] ++ others, isRange && !assignments.contains sign)
      | none =>
          if extent.reach == .all && startsOperator ".." tokens then
            return (← nested.openRange extent.structs, true)
          else return ([], false)

/-- What follows a chain in its expression. -/
def operationsAfter (nested : Nested) (extent : Extent) (chain : Chain) :
    Reader (List Token × Bool) := do
  if chain.form = .range then return ([], false) else nested.operations extent nested.bound

/-- An expression. -/
def expressionText (nested : Nested) (extent : Extent) : Reader (List Token) := do
  let operand ← nested.operandText extent.structs
  let chain ← nested.chain operand false
  let (rest, _) ← nested.operationsAfter extent chain
  return chain.write [] ++ rest

/-! ## Expressions outside brackets -/

/-- A macro call with its path. -/
def callText (nested : Nested) : Reader (List Token) := do
  let path ← nested.path .expression
  return path.tokens ++ (← call)

/-- The first chain of a statement that begins with a braced macro call that is none by
itself. -/
def bracedCallChain (nested : Nested) : Reader Chain := do
  let call ← nested.callText
  let isCalled ← ahead fun tokens => startsOpening "(" tokens || startsOpening "[" tokens
  let isContinued ← ahead fun tokens => continuesOperand tokens
  let isLast ← ahead fun tokens => startsKind .closing tokens || startsOperator ";" tokens
  let applied ← nested.applications nested.bound
  let operand := if isCalled then parenthesize call ++ applied else call ++ applied
  nested.chain ⟨operand, .other⟩ !(isCalled || isContinued || isLast)

/-- An expression after attributes, outside brackets.  One that ends with its block, and a
braced macro call in a statement, go on only with a member or a question mark. -/
def standing (nested : Nested) (place : Standing) (attributes : List Token) :
    Reader (List Token) := do
  let tokens ← get
  let isStatement := place == .statement
  let finish (chain : Chain) : Reader (List Token) := do
    let (rest, isRange) ← nested.operationsAfter .full chain
    return chain.assemble place attributes rest isRange
  let isCall := isStatement && startsBracedCall Token.isPlaceName tokens
  if isCall || startsBlockLike tokens then
    let head ← if isCall then nested.callText else nested.blockLike
    if ← ahead continuesOperand then
      let applied ← nested.applications nested.bound
      nested.chain ⟨head ++ applied, .other⟩ false >>= finish
    else return attributes ++ head
  else if isStatement && startsBracedCall Token.isPathName tokens then
    nested.bracedCallChain >>= finish
  else
    let operand ← nested.operandText true
    nested.chain operand false >>= finish

/-- A branch of a choice. -/
def branchText (nested : Nested) : Reader (List Token) := do
  let attributes ← nested.outerAttributes
  let pattern ← nested.alternatives
  let guard ← onlyIf (startsWord "if") do
    let lead ← word "if"
    return lead ++ (← nested.expression .full)
  let arrow ← operator "=>"
  let inner ← nested.outerAttributes
  let body ← nested.standing .branch inner
  return attributes ++ pattern ++ guard ++ arrow ++ body ++ (← operatorIf ",")

end Nested

end ObjectBridge.Source
