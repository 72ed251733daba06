import ObjectBridge.Text.Printable

/-!
# Quoted text

Text between double quotes, as diagnostic dumps show it.  A quote and a backslash
take a backslash, four controls have short names, every other character that is
not printable is shown by its number in braces, and all else stands for itself.
-/

namespace ObjectBridge.Text

/-- One character inside quotes. -/
def quoteChar (character : Char) : List Char :=
  if character = '"' then ['\\', '"']
  else if character = '\\' then ['\\', '\\']
  else if character = '\n' then ['\\', 'n']
  else if character = '\t' then ['\\', 't']
  else if character = '\r' then ['\\', 'r']
  else if character = '\x00' then ['\\', '0']
  else if isPrintable character then [character]
  else ['\\', 'u', '\x7b'] ++ Nat.toDigits 16 character.toNat ++ ['\x7d']

/-- A text between quotes. -/
def quote (text : String) : String :=
  String.ofList ('"' :: text.toList.flatMap quoteChar ++ ['"'])

/-- Items between brackets, separated by commas. -/
def bracketed (items : List String) : String :=
  "[" ++ ", ".intercalate items ++ "]"

/-- A list of quoted texts. -/
def quoteList (texts : List String) : String :=
  bracketed (texts.map quote)

end ObjectBridge.Text
