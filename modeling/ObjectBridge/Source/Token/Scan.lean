import ObjectBridge.Source.Token.Literal
import ObjectBridge.Text.Quoted

/-!
# Reading tokens

The tokens of a text.  White space and comments separate tokens and are dropped;
comments that document what they stand at become attributes instead.  A text whose
brackets do not match has no tokens.
-/

namespace ObjectBridge.Source

/-! ## Comments -/

/-- The text of a line up to its end. -/
def lineText : List Char → List Char
  | [] => []
  | '\n' :: _ => []
  | '\r' :: '\n' :: _ => []
  | character :: rest => character :: lineText rest

/-- The inside of a comment between marks, which may hold others, and what follows it. -/
def blockText : Nat → List Char → List Char → Option (List Char × List Char)
  | depth, inside, '*' :: '/' :: rest =>
      if depth = 0 then some (inside.reverse, rest)
      else blockText (depth - 1) ('/' :: '*' :: inside) rest
  | depth, inside, '/' :: '*' :: rest => blockText (depth + 1) ('*' :: '/' :: inside) rest
  | depth, inside, character :: rest => blockText depth (character :: inside) rest
  | _, _, [] => none

/-- Whether what follows two slashes makes the comment a documenting one. -/
def documentsLine : List Char → Bool
  | '/' :: '/' :: _ => false
  | '/' :: _ | '!' :: _ => true
  | _ => false

/-- Whether what follows a slash and a star makes the comment a documenting one. -/
def documentsBlock : List Char → Bool
  | '*' :: '*' :: _ | '*' :: '/' :: _ => false
  | '*' :: _ | '!' :: _ => true
  | _ => false

/-- Whether every carriage return is followed by a line feed. -/
def hasWholeBreaks : List Char → Bool
  | [] => true
  | '\r' :: '\n' :: rest => hasWholeBreaks rest
  | '\r' :: _ => false
  | _ :: rest => hasWholeBreaks rest

/-- The inside of the literal that a documenting comment becomes.  A zero before a digit
is written so that the digit does not join it. -/
def documentEscape : List Char → List Char
  | [] => []
  | '\x00' :: rest =>
      let zero := if rest.head?.any fun next => '0' ≤ next && next ≤ '7' then "\\x00" else "\\0"
      zero.toList ++ documentEscape rest
  | character :: rest => Text.quoteChar character ++ documentEscape rest

/-- The attribute that a documenting comment becomes; its text begins with the character
that makes it one. -/
def documentTokens? : List Char → Option (List Token)
  | sort :: text =>
      if hasWholeBreaks text then
        let inner := if sort = '!' then [.alone "!"] else []
        let written := String.ofList ('"' :: documentEscape text ++ ['"'])
        some ([.alone "#"] ++ inner ++ [⟨.opening, "["⟩, ⟨.word, "doc"⟩, .alone "=",
          ⟨.text (String.ofList text), written⟩, ⟨.closing, "]"⟩])
      else none
  | [] => none

/-! ## Single tokens -/

/-- Characters that are punctuation marks. -/
def isMarkChar (character : Char) : Bool :=
  "~!@#$%^&*-=+|;:,<.>/?'".toList.contains character

/-- Whether a text begins with a mark and not with a comment. -/
def startsMark : List Char → Bool
  | '/' :: '/' :: _ | '/' :: '*' :: _ => false
  | character :: _ => isMarkChar character
  | [] => false

/-- An identifier, possibly a raw one, and what follows it. -/
def identifier? : List Char → Option (List Char × List Char)
  | 'r' :: '#' :: rest =>
      if rest.head?.any isWordStart then
        some ('r' :: '#' :: rest.takeWhile isWordPart, rest.dropWhile isWordPart)
      else none
  | start =>
      if start.head?.any isWordStart then
        some (start.takeWhile isWordPart, start.dropWhile isWordPart)
      else none

/-- A literal at the head of a text, and the rest. -/
def literalToken? (start : List Char) : Option (Token × List Char) :=
  let made (kind : TokenKind) (rest : List Char) : Option (Token × List Char) :=
    some (⟨kind, String.ofList (start.take (start.length - rest.length))⟩, rest)
  match stringLiteral? start with
  | some (value, rest) => made (.text (String.ofList value)) (afterSuffix rest)
  | none =>
      match afterOther? start with
      | some rest => made .literal (afterSuffix rest)
      | none =>
          if start.head?.any Char.isDigit then made .number (afterNumber start) else none

/-- A bracket, a lifetime, a mark or a word at the head of a text, and the rest. -/
def plainToken? : List Char → Option (Token × List Char)
  | [] => none
  | first :: rest =>
      if first == '(' || first == '[' || first == '\x7b' then
        some (⟨.opening, first.toString⟩, rest)
      else if first == ')' || first == ']' || first == '\x7d' then
        some (⟨.closing, first.toString⟩, rest)
      else if first == '\'' then
        (identifier? rest).map fun (name, rest) =>
          (⟨.lifetime, String.ofList (first :: name)⟩, rest)
      else if startsMark (first :: rest) then
        some (⟨.mark (startsMark rest), first.toString⟩, rest)
      else
        (identifier? (first :: rest)).map fun (name, rest) =>
          (⟨.word, String.ofList name⟩, rest)

/-- The token at the head of a text that begins with no space, and the rest. -/
def nextToken? (start : List Char) : Option (Token × List Char) :=
  literalToken? start <|> plainToken? start

/-! ## Texts -/

/-- The tokens of a text after those that are found already, which stand in reverse
order.  The first argument bounds the number of steps. -/
def tokensFrom : Nat → List Token → List Char → Option (List Token)
  | 0, _, _ => none
  | bound + 1, found, rest =>
      match rest.dropWhile isSpace with
      | [] => some found.reverse
      | '/' :: '/' :: rest => do
          let line := lineText rest
          let made ← if documentsLine rest then documentTokens? line else some []
          tokensFrom bound (made.reverse ++ found) (rest.drop line.length)
      | '/' :: '*' :: rest => do
          let (inside, after) ← blockText 0 [] rest
          let made ← if documentsBlock rest then documentTokens? inside else some []
          tokensFrom bound (made.reverse ++ found) after
      | rest => do
          let (token, rest) ← nextToken? rest
          tokensFrom bound (token :: found) rest

/-- The bracket that closes an opening one. -/
def closingOf (bracket : String) : String :=
  if bracket = "(" then ")" else if bracket = "[" then "]" else "\x7d"

/-- Whether every bracket is closed by its own kind, given those that wait to be closed. -/
def isBalanced : List String → List Token → Bool
  | waiting, [] => waiting.isEmpty
  | waiting, token :: rest =>
      match token.kind, waiting with
      | .opening, _ => isBalanced (closingOf token.text :: waiting) rest
      | .closing, wanted :: waiting => token.text == wanted && isBalanced waiting rest
      | .closing, [] => false
      | _, _ => isBalanced waiting rest

/-- The tokens of a text.  A mark of octet order at its head is ignored. -/
def tokens? (text : String) : Option (List Token) :=
  let characters :=
    match text.toList with
    | '\uFEFF' :: rest => rest
    | characters => characters
  (tokensFrom (characters.length + 1) [] characters).filter (isBalanced [])

end ObjectBridge.Source
