import ObjectBridge.Source.Token

/-!
# Lookahead

What the tokens ahead begin: each test looks at the head of a list and, where one token
does not tell, at a few tokens after it.
-/

namespace ObjectBridge.Source

/-! ## Names and paths -/

/-- Words that may stand for a name wherever a path does. -/
def placeWords : List String := ["super", "self", "Self", "crate"]

/-- Whether a token may be a name in a path that has no arguments. -/
def Token.isPlaceName (token : Token) : Bool :=
  token.isName || (token.kind == .word && placeWords.contains token.text)

/-- Whether a token may be a name in a path. -/
def Token.isPathName (token : Token) : Bool :=
  token.isPlaceName || token.isWord "try"

/-- Whether a name in a path cannot have arguments between angle brackets. -/
def Token.standsAlone (token : Token) : Bool :=
  ["super", "self", "crate", "try"].any token.isWord

/-- Whether tokens begin a name. -/
def startsName (tokens : List Token) : Bool := tokens.head?.any Token.isName

/-- Whether tokens begin a path. -/
def startsPath (tokens : List Token) : Bool :=
  startsOperator "::" tokens || startsOperator "<" tokens ||
    tokens.head?.any Token.isPlaceName ||
    (startsWord "try" tokens &&
      (startsOperator "!" (tokens.drop 1) || startsOperator "::" (tokens.drop 1)))

/-- Whether tokens begin with the mark of a macro call. -/
def startsCall (tokens : List Token) : Bool :=
  startsOperator "!" tokens && !startsOperator "!=" tokens

/-- Whether tokens begin with an angle bracket and not with a longer operator that ends
with an equals sign. -/
def startsAngle (tokens : List Token) : Bool :=
  startsOperator "<" tokens && !startsOperator "<=" tokens && !startsOperator "<<=" tokens

/-- Whether tokens begin with a separator that an angle bracket follows. -/
def startsSeparatedAngle (tokens : List Token) : Bool :=
  startsOperator "::" tokens && startsOperator "<" (tokens.drop 2)

/-- Whether tokens begin with a separator that parenthesized arguments follow. -/
def startsSeparatedRound (tokens : List Token) : Bool :=
  startsOperator "::" tokens && startsOpening "(" (tokens.drop 2)

/-- Whether tokens begin with a separator that another name follows. -/
def startsNextName (tokens : List Token) : Bool :=
  startsOperator "::" tokens && !startsSeparatedRound tokens

/-- What follows the names of a path without arguments, if tokens begin with one whose
names are accepted. -/
def afterNames (accepts : Token → Bool) : List Token → Option (List Token)
  | name :: first :: second :: rest =>
      if !accepts name then none
      else if startsOperator "::" [first, second] then afterNames accepts rest
      else some (first :: second :: rest)
  | name :: rest => if accepts name then some rest else none
  | [] => none

/-- What follows the path of a macro call, mark included, if tokens begin with one whose
names are accepted. -/
def afterCallPath (accepts : Token → Bool) (tokens : List Token) : Option (List Token) :=
  let names := if startsOperator "::" tokens then tokens.drop 2 else tokens
  match afterNames accepts names with
  | some rest => if startsOperator "!" rest then some (rest.drop 1) else none
  | none => none

/-! ## Marks and literals -/

/-- Whether tokens begin with a single colon. -/
def startsColon (tokens : List Token) : Bool :=
  startsOperator ":" tokens && !startsOperator "::" tokens

/-- Whether tokens begin with a single point. -/
def startsPoint (tokens : List Token) : Bool :=
  startsOperator "." tokens && !startsOperator ".." tokens

/-- Whether tokens begin a literal without a sign. -/
def startsUnsigned (tokens : List Token) : Bool :=
  tokens.head?.any fun token => token.isLiteral || token.isWord "true" || token.isWord "false"

/-- Whether tokens begin a literal, which may have a sign if it is a number. -/
def startsLiteral (tokens : List Token) : Bool :=
  startsUnsigned tokens || (startsOperator "-" tokens && startsKind .number (tokens.drop 1))

/-- Whether tokens begin an attribute of a thing or, if `isInner`, of what it stands in. -/
def startsAttribute (isInner : Bool) (tokens : List Token) : Bool :=
  startsOperator "#" tokens && startsOperator "!" (tokens.drop 1) == isInner

/-! ## Types and generics -/

/-- Whether tokens begin a phrase of the compiler's own. -/
def startsBuiltin (tokens : List Token) : Bool :=
  startsWord "builtin" tokens && startsOperator "#" (tokens.drop 1)

/-- Whether tokens begin the type of a function pointer. -/
def startsFunctionType (tokens : List Token) : Bool :=
  ["fn", "unsafe", "extern"].any (startsWord · tokens)

/-- Whether tokens begin a constant that can be told from a type. -/
def startsConstant (tokens : List Token) : Bool :=
  startsLiteral tokens || startsOpening "\x7b" tokens

/-- Whether tokens begin a bound. -/
def startsBound (tokens : List Token) : Bool :=
  startsKind .lifetime tokens || ["?", "~", "::"].any (startsOperator · tokens) ||
    ["(", "["].any (startsOpening · tokens) ||
    tokens.head?.any fun token =>
      token.isPathName || ["for", "use", "const"].any token.isWord

/-- Whether the angle bracket that tokens begin with opens generic parameters.  Otherwise
it opens the type that a path begins with. -/
def startsParameters (tokens : List Token) : Bool :=
  let inside := tokens.drop 1
  let after := inside.drop 1
  startsOperator "<" tokens &&
    (startsOperator ">" inside || startsOperator "#" inside || startsWord "const" inside ||
      (inside.head?.any fun token => token.kind == .lifetime || token.isName) &&
        (startsOperator ">" after || startsOperator "," after || startsColon after ||
          startsOperator "=" after))

/-- Whether tokens end the constraints of a clause. -/
def endsConstraints (tokens : List Token) : Bool :=
  tokens.isEmpty || startsKind .closing tokens || startsOpening "\x7b" tokens ||
    [",", ";", "="].any (startsOperator · tokens) || startsColon tokens

/-! ## Functions -/

/-- What follows a word, if tokens begin with it; all of them otherwise. -/
def pastWord (word : String) (tokens : List Token) : List Token :=
  if startsWord word tokens then tokens.drop 1 else tokens

/-- What follows the convention of a function, if tokens begin with one. -/
def pastConvention (tokens : List Token) : List Token :=
  if startsWord "extern" tokens then
    let rest := tokens.drop 1
    if rest.head?.any Token.isLiteral then rest.drop 1 else rest
  else tokens

/-- Whether tokens begin the signature of a function; a block of foreign items may say
that a function is safe. -/
def startsSignature (isForeign : Bool) (tokens : List Token) : Bool :=
  let rest := pastWord "async" (pastWord "const" tokens)
  let rest := if isForeign then pastWord "safe" rest else rest
  startsWord "fn" (pastConvention (pastWord "unsafe" rest))

/-- Whether tokens begin a receiver. -/
def startsReceiver (tokens : List Token) : Bool :=
  if startsOperator "&" tokens then
    let rest := tokens.drop 1
    let rest := if startsKind .lifetime rest then rest.drop 1 else rest
    startsWord "self" (pastWord "mut" rest)
  else
    let rest := pastWord "mut" tokens
    let after := rest.drop 1
    startsWord "self" rest && !startsOperator "::" after &&
      !(startsOperator ":" after && startsOperator "..." (after.drop 1))

/-- Whether tokens begin with brackets that restrict a visibility. -/
def startsRestriction (tokens : List Token) : Bool :=
  let inside := tokens.drop 1
  startsOpening "(" tokens && (startsWord "in" inside ||
    (["crate", "self", "super"].any (startsWord · inside) && startsKind .closing (inside.drop 1)))

/-! ## Expressions and statements -/

/-- Whether tokens begin with a mark that applies to the operand after it. -/
def startsPrefixMark (tokens : List Token) : Bool :=
  ["&", "*", "!", "-"].any (startsOperator · tokens)

/-- Whether tokens continue an operand that could end before them. -/
def continuesOperand (tokens : List Token) : Bool :=
  startsPoint tokens || startsOperator "?" tokens

/-- Whether tokens begin a macro call with braces whose path has names that are accepted. -/
def startsBracedCall (accepts : Token → Bool) (tokens : List Token) : Bool :=
  (afterCallPath accepts tokens).any (startsOpening "\x7b")

/-- Whether tokens begin a closure that binds lifetimes. -/
def startsBinder (tokens : List Token) : Bool :=
  startsWord "for" tokens && startsParameters (tokens.drop 1)

/-- Whether tokens begin an expression that ends with its block. -/
def startsBlockLike (tokens : List Token) : Bool :=
  ["if", "while", "loop", "match", "unsafe"].any (startsWord · tokens) ||
    (startsWord "for" tokens && !startsBinder tokens) ||
    (["try", "const"].any (startsWord · tokens) && startsOpening "\x7b" (tokens.drop 1)) ||
    startsOpening "\x7b" tokens || startsKind .lifetime tokens

/-- Whether tokens begin a block that is run later. -/
def startsAsyncBlock (tokens : List Token) : Bool :=
  startsWord "async" tokens && startsOpening "\x7b" (pastWord "move" (tokens.drop 1))

/-- Whether tokens begin a closure; a block that is run later is none. -/
def startsClosure (tokens : List Token) : Bool :=
  startsOperator "|" tokens || startsBinder tokens ||
    ["move", "const", "static", "async"].any (startsWord · tokens)

/-- Whether tokens may begin an expression. -/
def startsExpression (tokens : List Token) : Bool :=
  startsKind .word tokens || startsKind .opening tokens || startsUnsigned tokens ||
    startsKind .lifetime tokens || ["..", "::", "#"].any (startsOperator · tokens) ||
    startsCall tokens || startsAngle tokens ||
    (startsOperator "-" tokens && !startsOperator "-=" tokens && !startsOperator "->" tokens) ||
    ["*", "|", "&"].any fun mark =>
      startsOperator mark tokens && !startsOperator (mark ++ "=") tokens

/-- Whether a range that has no end yet ends where tokens begin.  Braces belong to it only
if they may begin the fields of a structure. -/
def endsRange (structs : Bool) (tokens : List Token) : Bool :=
  tokens.isEmpty || startsKind .closing tokens || startsPoint tokens || startsWord "as" tokens ||
    (!structs && startsOpening "\x7b" tokens) ||
    [",", ";", "?", "=", "+", "/", "%", "^", ">", "<=", "!=", "-=", "*=", "&=", "|=", "<<="].any
      (startsOperator · tokens)

/-- Whether tokens begin with the word for a default that may be replaced. -/
def startsDefault (tokens : List Token) : Bool :=
  startsWord "default" tokens && !startsOperator "!" (tokens.drop 1)

/-- Whether tokens begin an item rather than an expression. -/
def startsItem (tokens : List Token) : Bool :=
  let next := tokens.drop 1
  let startsLater (tokens : List Token) : Bool :=
    ["unsafe", "extern", "fn"].any (startsWord · tokens)
  let isCall :=
    match afterCallPath Token.isPlaceName tokens with
    | some rest => startsName rest || startsWord "try" rest
    | none => false
  ["pub", "extern", "use", "fn", "mod", "type", "struct", "enum", "trait", "impl", "macro"].any
      (startsWord · tokens) ||
    (startsWord "crate" tokens && !startsOperator "::" next) ||
    (startsWord "static" tokens && (startsWord "mut" next || startsName next)) ||
    (startsWord "const" tokens &&
      !(startsOpening "\x7b" next || startsWord "static" next || startsWord "move" next ||
        startsOperator "|" next || (startsWord "async" next && !startsLater (next.drop 1)))) ||
    (startsWord "unsafe" tokens && !startsOpening "\x7b" next) ||
    (startsWord "async" tokens && startsLater next) ||
    (startsWord "union" tokens && startsName next) ||
    (startsWord "auto" tokens && startsWord "trait" next) ||
    (startsWord "default" tokens && (startsWord "unsafe" next || startsWord "impl" next)) ||
    isCall

end ObjectBridge.Source
