import ObjectBridge.Source.Reader

/-!
# Attributes

An attribute has a path and, possibly, arguments: a list between brackets or a
value after an equals sign.  The exporter reads two attributes: the marker
`rename`, whose one argument is a string literal, and the attribute on the block
itself, whose items may name the exported type.
-/

namespace ObjectBridge.Source

/-- Why exported source is refused. -/
inductive SourceError where
  | unexpectedEnd (wanted : String)
  | expected (wanted : String)
  | unexpectedToken
  | unsupportedProperty
  | badItemStart (found : String)
  | missingArguments
  | misplacedValue
  | emptyName
  | traitBlock
  | genericBlock
  | unnamedType
  | asyncConstructor
  | constructorReceiver
  | constructorRenamed
  | constructorReturnsNothing
  | valueReceiver
  | complexPattern
deriving DecidableEq, Repr

/-- The wording of a cause. -/
def SourceError.message : SourceError → String
  | unexpectedEnd wanted => s!"unexpected end of input, {wanted}"
  | expected wanted => s!"expected {wanted}"
  | unexpectedToken => "unexpected token"
  | unsupportedProperty => "unsupported reflect property, expected `name`"
  | badItemStart found => s!"unexpected {found} in nested attribute, expected ident"
  | missingArguments => "expected attribute arguments in parentheses: #[rename(...)]"
  | misplacedValue => "expected parentheses: #[rename(...)]"
  | emptyName => "Method name cannot be empty"
  | traitBlock => "#[reflect] must be applied to an inherent impl block"
  | genericBlock => "Generic types cannot be reflected"
  | unnamedType => "Only named types can be reflected"
  | asyncConstructor => "Async constructors are not supported"
  | constructorReceiver => "Constructors cannot take self"
  | constructorRenamed => "Constructors cannot be renamed"
  | constructorReturnsNothing => "Constructors must return Self"
  | valueReceiver => "Reflected methods must take &self or &mut self"
  | complexPattern => "Only simple identifiers are supported as arguments"

/-- What follows the path of an attribute. -/
inductive AttributeArguments where
  | absent
  /-- The tokens between brackets. -/
  | list (inside : List Token)
  /-- A value after an equals sign. -/
  | value
deriving DecidableEq, Repr

/-- An attribute of a function; the path is written without spaces. -/
structure Attribute where
  path : String
  arguments : AttributeArguments
deriving DecidableEq, Repr

/-! ## Reading attributes -/

namespace Reader

/-- The names of an attribute path, separators included.  The argument bounds their
number. -/
def markerNames : Nat → Reader (List Token)
  | 0 => failure
  | bound + 1 => do
      let name ← one fun token =>
        token.isName || ["super", "self", "Self", "crate"].any token.isWord
      if ← ahead (startsOperator "::") then
        let separator ← operator "::"
        return name ++ separator ++ (← markerNames bound)
      else return name

/-- The path of an attribute. -/
def markerPath (bound : Nat) : Reader (List Token) := do
  if ← ahead (startsWord "unsafe") then word "unsafe"
  else
    let separator ← operatorIf "::"
    return separator ++ (← markerNames bound)

/-- What follows the path of an attribute. -/
def markerArguments : Reader AttributeArguments := do
  let tokens ← get
  if startsKind .closing tokens then return .absent
  else if startsKind .opening tokens then
    let _ ← one fun _ => true
    let found ← inside
    let _ ← closing
    return .list found
  else
    let _ ← operator "="
    let _ ← inside
    return .value

/-- An attribute; one that stands inside what it describes has a mark of its own. -/
def marker (bound : Nat) (inner : Bool) : Reader Attribute := do
  let _ ← operator "#"
  let _ ← if inner then operator "!" else pure []
  let _ ← opening "["
  let path ← markerPath bound
  let arguments ← markerArguments
  let _ ← closing
  return ⟨compactText path, arguments⟩

/-- As many attributes of one sort as there are.  The first argument bounds their number. -/
def markers : Nat → Bool → Reader (List Attribute)
  | 0, _ => failure
  | bound + 1, inner => do
      let tokens ← get
      if startsOperator "#" tokens && startsOperator "!" (tokens.drop 1) == inner then
        let first ← marker bound inner
        return first :: (← markers bound inner)
      else return []

end Reader

/-! ## The argument of a marker -/

/-- A string literal at the head of tokens, and the rest. -/
def expectText : List Token → Except SourceError (String × List Token)
  | [] => .error (.unexpectedEnd "expected string literal")
  | ⟨.text value, _⟩ :: rest => .ok (value, rest)
  | _ => .error (.expected "string literal")

/-- The one string literal in the arguments of `rename`. -/
def AttributeArguments.onlyText : AttributeArguments → Except SourceError String
  | .absent => .error .missingArguments
  | .value => .error .misplacedValue
  | .list inside => do
      let (text, rest) ← expectText inside
      if rest.isEmpty then .ok text else .error .unexpectedToken

/-! ## The attribute on the block -/

/-- The path of an item, as text, and the rest.  A path has words between separators
and may begin with a separator.  The first argument bounds the number of words. -/
def itemPathFrom : Nat → String → List Token → Except SourceError (String × List Token)
  | 0, path, rest => .ok (path, rest)
  | bound + 1, path, rest =>
      if startsOperator "::" rest then
        match rest.drop 2 with
        | [] => .error (.unexpectedEnd "expected ident")
        | token :: rest =>
            if token.kind = .word then itemPathFrom bound (path ++ "::" ++ token.text) rest
            else .error (.expected "ident")
      else .ok (path, rest)

/-- What is found at the head of an item instead of a path.  A minus sign belongs to the
number after it. -/
def foundInstead : List Token → String
  | first :: next =>
      if first.isLiteral || (startsOperator "-" [first] && startsKind .number next) then "literal"
      else "token"
  | [] => "token"

/-- The path of an item and the rest. -/
def itemPath (items : List Token) : Except SourceError (String × List Token) :=
  let (lead, rest) := if startsOperator "::" items then ("::", items.drop 2) else ("", items)
  match rest with
  | [] => .error (.unexpectedEnd "expected nested attribute")
  | token :: more =>
      if token.kind = .word then itemPathFrom more.length (lead ++ token.text) more
      else .error (.badItemStart (foundInstead rest))

/-- The name that the items give the exported type; the last one counts.  The first
argument bounds the number of items. -/
def exportedNameFrom : Nat → Option String → List Token → Except SourceError (Option String)
  | 0, name, _ => .ok name
  | bound + 1, _, rest => do
      let (path, rest) ← itemPath rest
      if path ≠ "name" then throw .unsupportedProperty
      match rest with
      | [] => throw (.expected "`=`")
      | sign :: rest =>
          if !startsOperator "=" [sign] then throw (.expected "`=`")
          let (value, rest) ← expectText rest
          match rest with
          | [] => return some value
          | comma :: rest =>
              if !startsOperator "," [comma] then throw (.expected "`,`")
              if rest.isEmpty then return some value
              exportedNameFrom bound (some value) rest

/-- The name that the attribute on the block gives the exported type. -/
def exportedName (items : List Token) : Except SourceError (Option String) :=
  if items.isEmpty then .ok none else exportedNameFrom items.length none items

end ObjectBridge.Source
