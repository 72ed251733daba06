import ObjectBridge.Source.Lookahead
import ObjectBridge.Source.Reader
import ObjectBridge.Source.TypeText

/-!
# Phrases

Types, patterns, expressions, statements and items stand inside one another: an array
type has a length, which may be a block, which may declare functions.  A phrase is written
again with its own tokens but for the rules that the modules below state.  Every reader of
a phrase is given the readers of the phrases nested in it, so that each sort of phrase has
a module of its own; the readers are tied together by the depth that the nesting may have.
-/

namespace ObjectBridge.Source

/-- Tokens in parentheses. -/
def parenthesize (tokens : List Token) : List Token :=
  ⟨.opening, "("⟩ :: tokens ++ [⟨.closing, ")"⟩]

/-- What of a pattern bears on how it is used. -/
inductive PatternForm where
  /-- A name, possibly with a pattern of its own after `@`, or the wildcard. -/
  | simple
  | range
  /-- A pattern that is written as it stands, attributes aside. -/
  | copied
  | other
deriving DecidableEq, Repr

/-- A pattern as it is written. -/
structure Pattern where
  tokens : List Token
  form : PatternForm
deriving DecidableEq, Repr

/-- Which operators belong to an expression. -/
inductive Reach where
  /-- All of them. -/
  | all
  /-- Those that may stand in the end of a range: all but assignments and ranges. -/
  | rangeEnd
  /-- Those that may stand in what a pattern is tried on: comparisons and what binds
  tighter. -/
  | subject
deriving DecidableEq, Repr

/-- How far an expression goes. -/
structure Extent where
  /-- Whether braces after a path begin the fields of a structure. -/
  structs : Bool
  reach : Reach
deriving DecidableEq, Repr

/-- An expression between brackets or marks that end it. -/
def Extent.full : Extent := ⟨true, .all⟩

/-- The readers of the phrases that are nested in the one that is read. -/
structure Nested where
  /-- More than the number of tokens that are left. -/
  bound : Nat
  /-- A type; bounds may be added to it only if the argument holds. -/
  type : Bool → Reader TypeText
  /-- Bounds with plus signs between them. -/
  bounds : Reader BoundsText
  /-- A generic parameter. -/
  parameter : Reader GenericArgument
  /-- A pattern without alternatives. -/
  pattern : Reader Pattern
  /-- An operand; braces after a path belong to it only if the argument holds. -/
  operand : Bool → Reader (List Token)
  expression : Extent → Reader (List Token)
  /-- A branch of a choice by patterns. -/
  branch : Reader (List Token)
  /-- Statements between braces. -/
  block : Reader (List Token)
  /-- An item with its attributes. -/
  item : Reader (List Token)

/-- Readers that refuse everything. -/
def Nested.refused : Nested where
  bound := 0
  type _ := failure
  bounds := failure
  parameter := failure
  pattern := failure
  operand _ := failure
  expression _ := failure
  branch := failure
  block := failure
  item := failure

end ObjectBridge.Source
