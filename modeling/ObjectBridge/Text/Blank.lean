/-!
# Blank text

The characters with the Unicode property of white space.
-/

namespace ObjectBridge.Text

/-- The code points of white space, as ranges with both ends. -/
def blankRanges : List (Nat × Nat) :=
  [ (0x0009, 0x000D), (0x0020, 0x0020), (0x0085, 0x0085), (0x00A0, 0x00A0), (0x1680, 0x1680),
    (0x2000, 0x200A), (0x2028, 0x2029), (0x202F, 0x202F), (0x205F, 0x205F), (0x3000, 0x3000) ]

/-- Whether a character is white space. -/
def isBlankChar (character : Char) : Bool :=
  blankRanges.any fun range => range.1 ≤ character.toNat && character.toNat ≤ range.2

/-- Whether a text is empty or nothing but white space. -/
def isBlank (text : String) : Bool :=
  text.toList.all isBlankChar

end ObjectBridge.Text
