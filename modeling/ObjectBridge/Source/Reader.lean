import ObjectBridge.Source.Token

/-!
# Readers

A reader takes tokens from the head of a list and may refuse what it finds.  Most
readers here answer the tokens that they took, in the order in which they are to be
written.  What is to be read is decided by looking at the tokens ahead, so that no
reader is tried twice at one place.
-/

namespace ObjectBridge.Source

/-- A reader of something from tokens. -/
abbrev Reader (α : Type) := StateT (List Token) Option α

namespace Reader

/-! ## Single tokens -/

/-- One token that is accepted. -/
def token (accepts : Token → Bool) : Reader Token := do
  match ← get with
  | first :: rest =>
      guard (accepts first)
      set rest
      return first
  | [] => failure

/-- One token that is accepted, as a list. -/
def one (accepts : Token → Bool) : Reader (List Token) :=
  (fun found => [found]) <$> token accepts

/-- A given word. -/
def word (text : String) : Reader (List Token) := one (·.isWord text)

/-- A given opening bracket. -/
def opening (bracket : String) : Reader (List Token) := one (·.isOpening bracket)

/-- Any closing bracket; it is that of the group that is being read. -/
def closing : Reader (List Token) := one (·.kind == .closing)

/-- A lifetime. -/
def lifetime : Reader (List Token) := one (·.kind == .lifetime)

/-- A word that may be a name. -/
def name : Reader (List Token) := one Token.isName

/-- The marks of an operator. -/
def operator (text : String) : Reader (List Token) := do
  let tokens ← get
  guard (startsOperator text tokens)
  set (tokens.drop text.length)
  return tokens.take text.length

/-! ## What may be missing -/

/-- Whether the tokens that are left satisfy a test. -/
def ahead (test : List Token → Bool) : Reader Bool := do return test (← get)

/-- What a reader takes if the tokens that are left satisfy a test, or nothing. -/
def onlyIf (test : List Token → Bool) (reader : Reader (List Token)) : Reader (List Token) := do
  if ← ahead test then reader else return []

/-- A given word, if it is there. -/
def wordIf (text : String) : Reader (List Token) := onlyIf (startsWord text) (word text)

/-- The marks of an operator, if they are there. -/
def operatorIf (text : String) : Reader (List Token) :=
  onlyIf (startsOperator text) (operator text)

/-- A lifetime, if it is there. -/
def lifetimeIf : Reader (List Token) := onlyIf (startsKind .lifetime) lifetime

/-! ## Lists -/

/-- Phrases one after the other, up to something.  The last argument bounds their
number. -/
def repeated {α : Type} (stop : List Token → Bool) (phrase : Reader α) : Nat → Reader (List α)
  | 0 => failure
  | bound + 1 => do
      if ← ahead stop then return []
      let first ← phrase
      return first :: (← repeated stop phrase bound)

/-- Phrases with a mark between them, up to something; each comes with the mark after
it.  The last argument bounds their number. -/
def separated {α : Type} (mark : String) (stop : List Token → Bool) (phrase : Reader α) :
    Nat → Reader (List (α × List Token))
  | 0 => failure
  | bound + 1 => do
      if ← ahead stop then return []
      let first ← phrase
      let separator ← operatorIf mark
      if separator.isEmpty then return [(first, separator)]
      return (first, separator) :: (← separated mark stop phrase bound)

/-- The tokens of phrases that have a mark between them. -/
def joined (phrases : List (List Token × List Token)) : List Token :=
  phrases.flatMap fun (phrase, separator) => phrase ++ separator

/-- What stands between brackets that open with a given one. -/
def enclosed (bracket : String) (phrase : Reader (List Token)) : Reader (List Token) := do
  let left ← opening bracket
  let found ← phrase
  return left ++ found ++ (← closing)

/-- Phrases with commas between them, in brackets that open with a given one. -/
def listed (bracket : String) (phrase : Reader (List Token)) (bound : Nat) :
    Reader (List Token) :=
  enclosed bracket (joined <$> separated "," (startsKind .closing) phrase bound)

/-! ## Tokens as they stand -/

/-- The tokens at the head that satisfy a test. -/
def span (accepts : Token → Bool) : Reader (List Token) := do
  let found := (← get).takeWhile accepts
  modify (·.drop found.length)
  return found

/-- What was taken since given tokens were left, as it stands. -/
def since (start : List Token) : Reader (List Token) := do
  return start.take (start.length - (← get).length)

/-- The tokens up to the bracket that closes the open group, after those that are taken
already, which stand in reverse order. -/
def insideFrom : Nat → List Token → List Token → Option (List Token × List Token)
  | _, _, [] => none
  | depth, taken, token :: rest =>
      match token.kind, depth with
      | .closing, 0 => some (taken.reverse, token :: rest)
      | .closing, depth + 1 => insideFrom depth (token :: taken) rest
      | .opening, _ => insideFrom (depth + 1) (token :: taken) rest
      | _, _ => insideFrom depth (token :: taken) rest

/-- The inside of the group that is open, as it stands. -/
def inside : Reader (List Token) := fun tokens => insideFrom 0 [] tokens

/-- A whole group, as it stands. -/
def group : Reader (List Token) := do
  let left ← one (·.kind == .opening)
  let found ← inside
  return left ++ found ++ (← closing)

/-- A macro call after its path. -/
def call : Reader (List Token) := do
  let mark ← operator "!"
  return mark ++ (← group)

/-- The tokens up to a semicolon that stands in no group, and the semicolon, as they
stand.  The argument bounds their number. -/
def toSemicolon : Nat → Reader (List Token)
  | 0 => failure
  | bound + 1 => do
      if ← ahead (startsOperator ";") then operator ";"
      else
        let isGroup ← ahead (startsKind .opening)
        let first ← if isGroup then group else one (·.kind != .closing)
        return first ++ (← toSemicolon bound)

end Reader

end ObjectBridge.Source
