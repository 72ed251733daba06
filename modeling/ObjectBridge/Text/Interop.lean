import ObjectBridge.Text.Utf8
import ObjectBridge.Error.Cause

/-!
# Native strings

A native string is an address of octets that end at the first zero, or no
address at all.  Text goes out as UTF-8; since a zero would end it early, every
such character goes out as the replacement character.
-/

namespace ObjectBridge

/-- A native string: the octets at its address, or nothing for the null string.
The octets include the terminating zero. -/
structure InteropString where
  buffer : Option (List UInt8)
deriving DecidableEq, Repr

namespace InteropString

/-- The string that has no address. -/
def null : InteropString := ⟨none⟩

/-- Whether the string has no address. -/
def isNull (string : InteropString) : Bool := string.buffer.isNone

/-- Octets that a host put in memory, followed by a zero. -/
def ofOctets (octets : List UInt8) : InteropString := ⟨some (octets ++ [0])⟩

/-- A text in which no character would end the string early. -/
def shielded (text : String) : List Char :=
  text.toList.map fun character =>
    if character = '\x00' then Utf8.replacement else character

/-- A new native string of octets, unless one of them would end it early. -/
def ofOctets? (octets : List UInt8) : Option InteropString :=
  if 0 ∈ octets then none else some (ofOctets octets)

/-- A new native string that holds a text, as it is if it can be held so and else
shielded.  A shielded text that could not be held either would go out as no text. -/
def ofText (text : String) : InteropString :=
  match ofOctets? (Utf8.encode text.toList) with
  | some string => string
  | none => (ofOctets? (Utf8.encode (shielded text))).getD (ofOctets [])

/-- The octets before the terminating zero. -/
def content? (string : InteropString) : Option (List UInt8) :=
  string.buffer.map (·.takeWhile (· ≠ 0))

/-- The text of a string. -/
def text (string : InteropString) : Except InteropError String :=
  match string.content? with
  | none => .error .nullString
  | some octets =>
      match Utf8.decode octets with
      | .ok characters => .ok (String.ofList characters)
      | .error cause => .error (.invalidUtf8 cause.message)

/-- A copy of a native string as a new one, which always holds text. -/
def copyLossy (string : InteropString) : InteropString :=
  match string.content? with
  | none => null
  | some octets => ofText (String.ofList (Utf8.decodeLossy octets))

end InteropString

end ObjectBridge
