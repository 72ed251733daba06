import ObjectBridge.Text.Blank

/-!
# Tokens of Rust text

The exporter reads a block of Rust: the type that it belongs to, its functions,
and their attributes.  The text is read into a flat list of tokens in which
brackets are tokens too.  Each token keeps the text that it was read from; a string
literal also keeps its value, and a punctuation mark whether another mark is
written directly after it.
-/

namespace ObjectBridge.Source

/-- What a token is. -/
inductive TokenKind where
  /-- An identifier or keyword. -/
  | word
  | lifetime
  /-- A string literal with its value. -/
  | text (value : String)
  | number
  /-- A literal of any other sort. -/
  | literal
  /-- One punctuation mark; `joined` if another one is written directly after it. -/
  | mark (joined : Bool)
  | opening
  | closing
deriving DecidableEq, Repr

/-- A token with its text. -/
structure Token where
  kind : TokenKind
  text : String
deriving DecidableEq, Repr

namespace Token

/-- A mark that stands alone. -/
def alone (mark : String) : Token := ⟨.mark false, mark⟩

/-- Whether a token is a punctuation mark. -/
def isMark (token : Token) : Bool :=
  match token.kind with
  | .mark _ => true
  | _ => false

/-- Whether a token is a mark that another one is written directly after. -/
def isJoined (token : Token) : Bool := token.kind == .mark true

/-- Whether a token is a given word. -/
def isWord (token : Token) (word : String) : Bool :=
  token.kind == .word && token.text == word

/-- Whether a token is a given opening bracket. -/
def isOpening (token : Token) (bracket : String) : Bool :=
  token.kind == .opening && token.text == bracket

/-- Whether a token is a literal of some sort other than a truth value. -/
def isLiteral (token : Token) : Bool :=
  match token.kind with
  | .text _ | .number | .literal => true
  | _ => false

end Token

/-! ## The head of a list of tokens -/

/-- Whether tokens begin with the marks of an operator.  Each mark but the last one
has to be joined to the next; the last one may be joined to more. -/
def startsMarks : List Char → List Token → Bool
  | [], _ => true
  | _, [] => false
  | [only], token :: _ => token.isMark && token.text == only.toString
  | first :: others, token :: rest =>
      token.isJoined && token.text == first.toString && startsMarks others rest

/-- Whether tokens begin with an operator. -/
def startsOperator (operator : String) (tokens : List Token) : Bool :=
  startsMarks operator.toList tokens

/-- Whether tokens begin with a given word. -/
def startsWord (word : String) (tokens : List Token) : Bool :=
  tokens.head?.any (·.isWord word)

/-- Whether tokens begin with a given opening bracket. -/
def startsOpening (bracket : String) (tokens : List Token) : Bool :=
  tokens.head?.any (·.isOpening bracket)

/-- Whether tokens begin with a token of a kind. -/
def startsKind (kind : TokenKind) (tokens : List Token) : Bool :=
  tokens.head?.any (·.kind == kind)

/-! ## Words -/

/-- Words that name nothing unless they are written as raw identifiers. -/
def keywords : List String :=
  [ "_", "abstract", "as", "async", "await", "become", "box", "break", "const", "continue",
    "crate", "do", "dyn", "else", "enum", "extern", "false", "final", "fn", "for", "if", "impl",
    "in", "let", "loop", "macro", "match", "mod", "move", "mut", "override", "priv", "pub",
    "ref", "return", "Self", "self", "static", "struct", "super", "trait", "true", "try", "type",
    "typeof", "unsafe", "unsized", "use", "virtual", "where", "while", "yield" ]

/-- Whether a token is a word that may be a name. -/
def Token.isName (token : Token) : Bool :=
  token.kind == .word && !keywords.contains token.text

/-! ## Text -/

/-- The text of tokens put together, white space inside literals left out. -/
def compactText (tokens : List Token) : String :=
  String.ofList ((tokens.flatMap fun token => token.text.toList).filter fun character =>
    !Text.isBlankChar character)

end ObjectBridge.Source
