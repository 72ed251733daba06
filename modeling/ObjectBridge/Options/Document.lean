/-!
# Option documents

Options are written as TOML 1.0.  Every option is a whole number, a text or a
truth value at the top level, so a document that can be accepted is flat: lines
that each hold nothing, a comment, or one key and one such value.  Any other
construct of the language, a table, an array, a date, a floating number or a
dotted key, gives some key a value of a type that no option has; the reader
refuses such a document as a whole, along with documents that are no TOML.

Reading yields the keys and values in order.  No key occurs twice.
-/

namespace ObjectBridge.Document

/-- A value that an option may have. -/
inductive Setting where
  | number (value : Int)
  | text (value : String)
  | truth (value : Bool)
deriving DecidableEq, Repr

/-- What reads documents: the entries of a document, unless it is refused. -/
abbrev Reader := String → Option (List (String × Setting))

/-- Characters that are still to be read. -/
abbrev Rest := List Char

/-- Blanks within a line. -/
def isGap (character : Char) : Bool := character == ' ' || character == '\t'

/-- Drop blanks. -/
def skipGaps (rest : Rest) : Rest := rest.dropWhile isGap

/-- Controls that may stand nowhere but in a line end or as a tab. -/
def isControl (character : Char) : Bool :=
  (character.toNat < 0x20 && character != '\t') || character.toNat == 0x7F

/-- The end of a line: a line feed, alone or after a carriage return. -/
def lineEnd? : Rest → Option Rest
  | '\n' :: rest => some rest
  | '\r' :: '\n' :: rest => some rest
  | _ => none

/-- Drop a comment, if one begins here. -/
def skipComment : Rest → Rest
  | '#' :: rest => rest.dropWhile fun character => !isControl character
  | rest => rest

/-- Drop the remainder of a line that may hold a comment at most.  The last line
need not end. -/
def finishLine? (rest : Rest) : Option Rest :=
  match skipComment (skipGaps rest) with
  | [] => some []
  | rest => lineEnd? rest

/-! ## Escapes -/

/-- The value of a hexadecimal digit. -/
def hexValue? (character : Char) : Option Nat :=
  let code := character.toNat
  if 48 ≤ code && code ≤ 57 then some (code - 48)
  else if 65 ≤ code && code ≤ 70 then some (code - 55)
  else if 97 ≤ code && code ≤ 102 then some (code - 87)
  else none

/-- Exactly `count` hexadecimal digits. -/
def hexDigits? : Nat → Nat → Rest → Option (Nat × Rest)
  | 0, value, rest => some (value, rest)
  | _ + 1, _, [] => none
  | count + 1, value, character :: rest => do
      let digit ← hexValue? character
      hexDigits? count (value * 16 + digit) rest

/-- A character given by its number. -/
def numbered? (count : Nat) (rest : Rest) : Option (Char × Rest) := do
  let (code, rest) ← hexDigits? count 0 rest
  if code.isValidChar then some (Char.ofNat code, rest) else none

/-- What stands after a backslash. -/
def escape? : Rest → Option (Char × Rest)
  | 'b' :: rest => some ('\x08', rest)
  | 't' :: rest => some ('\t', rest)
  | 'n' :: rest => some ('\n', rest)
  | 'f' :: rest => some ('\x0C', rest)
  | 'r' :: rest => some ('\r', rest)
  | '"' :: rest => some ('"', rest)
  | '\\' :: rest => some ('\\', rest)
  | 'u' :: rest => numbered? 4 rest
  | 'U' :: rest => numbered? 8 rest
  | _ => none

/-! ## Texts

Each reader takes a bound on the number of steps; the length of what is left is
always enough, since a step takes one character at least.
-/

/-- The inside of a text between quotes, up to and with the closing one. -/
def basicBody? : Nat → List Char → Rest → Option (List Char × Rest)
  | 0, _, _ => none
  | _ + 1, taken, '"' :: rest => some (taken.reverse, rest)
  | bound + 1, taken, '\\' :: rest => do
      let (character, rest) ← escape? rest
      basicBody? bound (character :: taken) rest
  | bound + 1, taken, character :: rest =>
      if isControl character then none else basicBody? bound (character :: taken) rest
  | _ + 1, _, [] => none

/-- The inside of a text between apostrophes, up to and with the closing one. -/
def literalBody? : List Char → Rest → Option (List Char × Rest)
  | taken, '\'' :: rest => some (taken.reverse, rest)
  | taken, character :: rest =>
      if isControl character then none else literalBody? (character :: taken) rest
  | _, [] => none

/-- The end of a text over several lines: three marks close it, and up to two
before them belong to it. -/
def closingMarks? (mark : Char) (taken : List Char) (rest : Rest) :
    Option (List Char × Rest) :=
  let marks := (rest.takeWhile (· == mark)).length
  if marks < 3 then none
  else if marks ≤ 5 then
    some ((List.replicate (marks - 3) mark ++ taken).reverse, rest.drop marks)
  else
    some ((mark :: mark :: taken).reverse, rest.drop 5)

/-- Drop blanks and line ends. -/
def skipBlankLines (rest : Rest) : Rest :=
  match rest with
  | '\n' :: rest => skipBlankLines rest
  | '\r' :: '\n' :: rest => skipBlankLines rest
  | character :: rest => if isGap character then skipBlankLines rest else character :: rest
  | [] => []

/-- Whether a backslash stands at the end of its line. -/
def joinsLines? (rest : Rest) : Option Rest :=
  (lineEnd? (skipGaps rest)).map skipBlankLines

/-- The inside of a text between tripled quotes.  Line ends become line feeds,
and a backslash at the end of a line joins the next text to it. -/
def basicLines? : Nat → List Char → Rest → Option (List Char × Rest)
  | 0, _, _ => none
  | bound + 1, taken, rest =>
      match closingMarks? '"' taken rest with
      | some closed => some closed
      | none =>
          match lineEnd? rest with
          | some rest => basicLines? bound ('\n' :: taken) rest
          | none =>
              match rest with
              | '\\' :: rest =>
                  match joinsLines? rest with
                  | some rest => basicLines? bound taken rest
                  | none =>
                      match escape? rest with
                      | some (character, rest) => basicLines? bound (character :: taken) rest
                      | none => none
              | character :: rest =>
                  if isControl character then none
                  else basicLines? bound (character :: taken) rest
              | [] => none

/-- The inside of a text between tripled apostrophes.  Line ends become line
feeds. -/
def literalLines? : Nat → List Char → Rest → Option (List Char × Rest)
  | 0, _, _ => none
  | bound + 1, taken, rest =>
      match closingMarks? '\'' taken rest with
      | some closed => some closed
      | none =>
          match lineEnd? rest with
          | some rest => literalLines? bound ('\n' :: taken) rest
          | none =>
              match rest with
              | character :: rest =>
                  if isControl character then none
                  else literalLines? bound (character :: taken) rest
              | [] => none

/-- A line end right after three opening marks belongs to them. -/
def skipFirstLineEnd (rest : Rest) : Rest := (lineEnd? rest).getD rest

/-- A text, of any of the four forms. -/
def text? : Rest → Option (List Char × Rest)
  | '"' :: '"' :: '"' :: rest =>
      let rest := skipFirstLineEnd rest
      basicLines? (rest.length + 1) [] rest
  | '\'' :: '\'' :: '\'' :: rest =>
      let rest := skipFirstLineEnd rest
      literalLines? (rest.length + 1) [] rest
  | '"' :: rest => basicBody? (rest.length + 1) [] rest
  | '\'' :: rest => literalBody? [] rest
  | _ => none

/-! ## Numbers -/

/-- The value of a digit of a base. -/
def digitValue? (base : Nat) (character : Char) : Option Nat :=
  (hexValue? character).filter (· < base)

/-- Further digits; an underscore may stand between two. -/
def moreDigits (base : Nat) : Nat → Rest → Nat × Rest
  | value, '_' :: character :: rest =>
      match digitValue? base character with
      | some digit => moreDigits base (value * base + digit) rest
      | none => (value, '_' :: character :: rest)
  | value, character :: rest =>
      match digitValue? base character with
      | some digit => moreDigits base (value * base + digit) rest
      | none => (value, character :: rest)
  | value, [] => (value, [])

/-- One digit at least. -/
def digits? (base : Nat) : Rest → Option (Nat × Rest)
  | character :: rest => (digitValue? base character).map fun digit => moreDigits base digit rest
  | [] => none

/-- A decimal number without sign.  Only zero begins with zero. -/
def decimal? : Rest → Option (Nat × Rest)
  | '0' :: rest => some (0, rest)
  | rest => digits? 10 rest

/-- A whole number. -/
def number? : Rest → Option (Int × Rest)
  | '0' :: 'x' :: rest => (digits? 16 rest).map fun (value, rest) => (value, rest)
  | '0' :: 'o' :: rest => (digits? 8 rest).map fun (value, rest) => (value, rest)
  | '0' :: 'b' :: rest => (digits? 2 rest).map fun (value, rest) => (value, rest)
  | '-' :: rest => (decimal? rest).map fun (value, rest) => (-value, rest)
  | '+' :: rest => (decimal? rest).map fun (value, rest) => (value, rest)
  | rest => (decimal? rest).map fun (value, rest) => (value, rest)

/-- Whether a number fits the 64 bits that a document allows. -/
def fits (value : Int) : Bool :=
  Int64.minValue.toInt ≤ value && value ≤ Int64.maxValue.toInt

/-! ## Lines -/

/-- A value. -/
def setting? (rest : Rest) : Option (Setting × Rest) :=
  match rest with
  | 't' :: 'r' :: 'u' :: 'e' :: rest => some (.truth true, rest)
  | 'f' :: 'a' :: 'l' :: 's' :: 'e' :: rest => some (.truth false, rest)
  | _ =>
      match text? rest with
      | some (characters, rest) => some (.text (String.ofList characters), rest)
      | none => do
          let (value, rest) ← number? rest
          if fits value then some (.number value, rest) else none

/-- Characters of keys that stand without quotes. -/
def isBareKeyChar (character : Char) : Bool :=
  character.isAlphanum || character == '_' || character == '-'

/-- A key, bare or quoted. -/
def key? : Rest → Option (List Char × Rest)
  | '"' :: rest => basicBody? (rest.length + 1) [] rest
  | '\'' :: rest => literalBody? [] rest
  | rest =>
      let bare := rest.takeWhile isBareKeyChar
      if bare.isEmpty then none else some (bare, rest.dropWhile isBareKeyChar)

/-- A key with its value. -/
def entry? (rest : Rest) : Option ((String × Setting) × Rest) := do
  let (key, rest) ← key? rest
  match skipGaps rest with
  | '=' :: rest =>
      let (setting, rest) ← setting? (skipGaps rest)
      some ((String.ofList key, setting), rest)
  | _ => none

/-- The entries of the remaining lines, after those read so far. -/
def lines? : Nat → List (String × Setting) → Rest → Option (List (String × Setting))
  | 0, _, _ => none
  | bound + 1, entries, rest =>
      match skipGaps rest with
      | [] => some entries
      | rest =>
          match finishLine? rest with
          | some rest => lines? bound entries rest
          | none => do
              let ((key, setting), rest) ← entry? rest
              let rest ← finishLine? rest
              if (entries.lookup key).isSome then none
              else lines? bound (entries ++ [(key, setting)]) rest

/-- The entries of a document.  A byte order mark may stand in front. -/
def read? (document : String) : Option (List (String × Setting)) :=
  let rest := document.toList
  let rest := if rest.head? = some '\uFEFF' then rest.drop 1 else rest
  lines? (rest.length + 1) [] rest

end ObjectBridge.Document
