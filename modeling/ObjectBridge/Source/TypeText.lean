import ObjectBridge.Source.Token

/-!
# Types

A type is kept as the tokens that it is written with again.  Of its meaning the exporter
has to know only whether it is a path, and the last name in it.  What follows a type or
its brackets is read by its form, and generic arguments are written with lifetimes before
all others.
-/

namespace ObjectBridge.Source

/-! ## Paths -/

/-- What arguments a name in a path has. -/
inductive ArgumentForm where
  | absent
  /-- Angle brackets with nothing in them. -/
  | empty
  | angled
  | parenthesized
deriving DecidableEq, Repr

/-- A path as it is written: what goes up to its last name, and the arguments of that. -/
structure PathText where
  stem : List Token
  lastName : String
  arguments : List Token
  form : ArgumentForm
  /-- Whether the path begins with a type between angle brackets. -/
  isQualified : Bool
  /-- Whether the path is one name that no separator stands before. -/
  isSingle : Bool
  /-- Whether no name of the path has arguments. -/
  isPlain : Bool
  /-- Whether the path, or the type that its arguments lead to, ends with a bare name. -/
  isOpen : Bool
deriving DecidableEq, Repr

/-- The tokens of a path. -/
def PathText.tokens (path : PathText) : List Token := path.stem ++ path.arguments

/-- A path before its first name. -/
def PathText.lead (tokens : List Token) (isQualified : Bool) : PathText :=
  ⟨tokens, "", [], .absent, isQualified, tokens.isEmpty, true, false⟩

/-- A path with one more name, after a separator unless it is the first. -/
def PathText.push (path : PathText) (separator : List Token) (name : Token)
    (arguments : List Token) (form : ArgumentForm) : PathText where
  stem := path.tokens ++ separator ++ [name]
  lastName := name.text
  arguments := arguments
  form := form
  isQualified := path.isQualified
  isSingle := path.isSingle && separator.isEmpty
  isPlain := path.isPlain && form == .absent
  isOpen := form == .absent

/-! ## Types -/

/-- What of a type bears on what may follow it. -/
inductive TypeForm where
  | path (lastName : String) (isQualified : Bool)
  /-- A single name without parenthesized arguments. -/
  | name (name : String)
  /-- A single trait, with the tokens that it is written with outside parentheses. -/
  | trait (bare : List Token)
  /-- A type between parentheses. -/
  | parenthesized
  | other
deriving DecidableEq, Repr

/-- The last name of a type that is a path. -/
def TypeForm.lastName? : TypeForm → Option String
  | path lastName _ | name lastName => some lastName
  | trait _ | parenthesized | other => none

/-- Whether a type is a path that begins with a name. -/
def TypeForm.isNamePath : TypeForm → Bool
  | path _ isQualified => !isQualified
  | name _ => true
  | trait _ | parenthesized | other => false

/-- The tokens outside parentheses of a type that may be a single trait, given the tokens
that it is written with. -/
def TypeForm.trait? (tokens : List Token) : TypeForm → Option (List Token)
  | trait bare => some bare
  | form => if form.isNamePath then some tokens else none

/-- A type as it is written. -/
structure TypeText where
  tokens : List Token
  form : TypeForm
  /-- Whether the type ends with a bare name, which would take an angle bracket after it
  for its own. -/
  isOpen : Bool
deriving DecidableEq, Repr

/-- The path as a type. -/
def PathText.type (path : PathText) : TypeText where
  tokens := path.tokens
  form :=
    if path.isSingle && path.form != .parenthesized then .name path.lastName
    else .path path.lastName path.isQualified
  isOpen := path.isOpen

/-- A type that is neither a path nor in parentheses, as it is written. -/
def TypeText.plain (tokens : List Token) (isOpen : Bool) : TypeText :=
  ⟨tokens, .other, isOpen⟩

/-- What is written for the type that a function returns, if that is said. -/
def outputTokens : Option TypeText → List Token
  | some type => [⟨.mark true, "-"⟩, .alone ">"] ++ type.tokens
  | none => []

/-! ## Bounds -/

/-- A bound as it is written. -/
structure BoundText where
  tokens : List Token
  /-- Whether the bound ends with a bare name, parentheses around it aside. -/
  isOpen : Bool
deriving DecidableEq, Repr

/-- Bounds as they are written. -/
structure BoundsText where
  tokens : List Token
  isOpen : Bool
deriving DecidableEq, Repr

/-- Bounds from the single ones, each with the mark after it. -/
def BoundsText.ofList (bounds : List (BoundText × List Token)) : BoundsText where
  tokens := bounds.flatMap fun (bound, separator) => bound.tokens ++ separator
  isOpen := bounds.getLast?.any (·.1.isOpen)

/-! ## Generic arguments -/

/-- A generic argument or parameter. -/
structure GenericArgument where
  isLifetime : Bool
  tokens : List Token
deriving DecidableEq, Repr

/-- Write generic arguments, each with the comma after it, lifetimes first. -/
def arrange (arguments : List (GenericArgument × List Token)) : List Token :=
  let written (found : GenericArgument × List Token) := found.1.tokens ++ found.2
  let lifetimes := arguments.filter (·.1.isLifetime)
  let others := arguments.filter (!·.1.isLifetime)
  let runsOn := lifetimes.getLast?.any (·.2.isEmpty) && !others.isEmpty
  lifetimes.flatMap written ++ (if runsOn then [.alone ","] else []) ++ others.flatMap written

end ObjectBridge.Source
