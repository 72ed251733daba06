import ObjectBridge.Source.Token

/-!
# Literals

Where a literal at the head of a text ends, and the value of a string literal.  A
literal may carry a suffix, which is a word written directly after it.
-/

namespace ObjectBridge.Source

/-! ## Characters -/

/-- Characters between tokens: white space and the two marks of writing direction. -/
def isSpace (character : Char) : Bool :=
  Text.isBlankChar character || character == '\u200E' || character == '\u200F'

/-- Characters that may begin a word. -/
def isWordStart (character : Char) : Bool :=
  character.isAlpha || character == '_' || (0x80 ≤ character.toNat && !isSpace character)

/-- Characters that may continue a word. -/
def isWordPart (character : Char) : Bool :=
  isWordStart character || character.isDigit

/-- The value of a hexadecimal digit. -/
def hexDigit (character : Char) : Nat :=
  let code := character.toNat
  if 97 ≤ code then code - 87 else if 65 ≤ code then code - 55 else code - 48

/-- The number that digits spell in a base up to sixteen, underscores ignored. -/
def numberOf (base : Nat) (digits : List Char) : Nat :=
  (digits.filter (· ≠ '_')).foldl (fun number digit => number * base + hexDigit digit) 0

/-- What follows the suffix of a literal, if it has one. -/
def afterSuffix (rest : List Char) : List Char :=
  if rest.head?.any isWordStart then rest.dropWhile isWordPart else rest

/-! ## Quoted literals -/

/-- The character that an escape after its backslash stands for, and the rest. -/
def escape? : List Char → Option (Char × List Char)
  | 'n' :: rest => some ('\n', rest)
  | 't' :: rest => some ('\t', rest)
  | 'r' :: rest => some ('\r', rest)
  | '0' :: rest => some ('\x00', rest)
  | '\\' :: rest => some ('\\', rest)
  | '\'' :: rest => some ('\'', rest)
  | '"' :: rest => some ('"', rest)
  | 'x' :: high :: low :: rest => some (Char.ofNat (numberOf 16 [high, low]), rest)
  | 'u' :: '\x7b' :: rest =>
      let digits := rest.takeWhile (· ≠ '\x7d')
      some (Char.ofNat (numberOf 16 digits), rest.drop (digits.length + 1))
  | _ => none

/-- What follows the line break that a backslash hides; blanks and further line breaks
are hidden with it. -/
def afterHiddenBreak? : List Char → Option (List Char)
  | '\n' :: rest | '\r' :: '\n' :: rest => some (rest.dropWhile [' ', '\t', '\n', '\r'].contains)
  | _ => none

/-- The inside of a string literal up to its closing quote: its value and what follows
the quote.  A line break of two characters counts as one, and a carriage return has no
other place.  The first argument bounds the number of steps. -/
def quotedBody : Nat → List Char → List Char → Option (List Char × List Char)
  | 0, _, _ => none
  | _, _, [] => none
  | _ + 1, value, '"' :: rest => some (value.reverse, rest)
  | bound + 1, value, '\\' :: rest =>
      match afterHiddenBreak? rest with
      | some rest => quotedBody bound value rest
      | none => do
          let (character, rest) ← escape? rest
          quotedBody bound (character :: value) rest
  | bound + 1, value, '\r' :: rest =>
      match rest with
      | '\n' :: rest => quotedBody bound ('\n' :: value) rest
      | _ => none
  | bound + 1, value, character :: rest => quotedBody bound (character :: value) rest

/-- The inside of a raw string literal that closes with a quote and `hashes` hashes. -/
def rawBody (hashes : Nat) : List Char → List Char → Option (List Char × List Char)
  | value, '"' :: rest =>
      if rest.take hashes = List.replicate hashes '#' then
        some (value.reverse, rest.drop hashes)
      else rawBody hashes ('"' :: value) rest
  | value, character :: rest => rawBody hashes (character :: value) rest
  | _, [] => none

/-- A string literal, plain or raw, without its suffix. -/
def stringLiteral? : List Char → Option (List Char × List Char)
  | '"' :: rest => quotedBody (rest.length + 1) [] rest
  | 'r' :: rest =>
      let hashes := (rest.takeWhile (· == '#')).length
      match rest.drop hashes with
      | '"' :: rest => rawBody hashes [] rest
      | _ => none
  | _ => none

/-- What follows a character literal after its opening apostrophe. -/
def afterCharacter? (rest : List Char) : Option (List Char) := do
  let rest ← match rest with
    | '\\' :: rest => (escape? rest).map (·.2)
    | _ :: rest => some rest
    | [] => none
  match rest with
  | '\'' :: rest => some rest
  | _ => none

/-- What follows a literal that is neither a string nor a number, without its suffix. -/
def afterOther? : List Char → Option (List Char)
  | '\'' :: rest | 'b' :: '\'' :: rest => afterCharacter? rest
  | 'b' :: rest | 'c' :: rest => (stringLiteral? rest).map (·.2)
  | _ => none

/-! ## Numbers -/

/-- Characters between the first digit of a number and its end. -/
def isFigure (character : Char) : Bool :=
  character.isDigit || character == '_'

/-- What follows an exponent after its letter; a sign is not enough. -/
def afterExponent? (rest : List Char) : Option (List Char) :=
  let unsigned :=
    match rest.dropWhile (· == '_') with
    | '+' :: rest | '-' :: rest => rest
    | rest => rest
  if (unsigned.takeWhile isFigure).any Char.isDigit then some (unsigned.dropWhile isFigure)
  else none

/-- What follows the exponent of a number, if it has one. -/
def pastExponent? : List Char → Option (List Char)
  | 'e' :: rest | 'E' :: rest => afterExponent? rest
  | _ => none

/-- What follows a number that begins here.  A point belongs to it unless another point
or a word comes directly after. -/
def afterNumber (start : List Char) : List Char :=
  match start.dropWhile isFigure with
  | '.' :: rest =>
      if rest.head?.any fun next => next == '.' || isWordStart next then '.' :: rest
      else
        let fraction := rest.dropWhile isFigure
        afterSuffix ((pastExponent? fraction).getD fraction)
  | rest =>
      match pastExponent? rest with
      | some rest => afterSuffix rest
      | none => start.dropWhile isWordPart

end ObjectBridge.Source
