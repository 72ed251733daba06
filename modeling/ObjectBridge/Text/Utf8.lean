/-!
# UTF-8

Octets are read by a machine that is either between characters or inside one.
Reading yields pieces in order: a character, a malformed sequence, or the
beginning of a character that the input ends in.  A malformed sequence is as
long as it can be: it ends before the first octet that cannot continue it, and
that octet starts the next piece.

The strict reader refuses text with any other piece than characters and says
where the first one begins; the lossy reader puts a replacement character for
each.
-/

namespace ObjectBridge.Utf8

/-- The character that stands for octets that are no text. -/
def replacement : Char := '\uFFFD'

/-- The octets of a text. -/
def encode (text : List Char) : List UInt8 :=
  text.flatMap String.utf8EncodeChar

/-- What reading octets yields. -/
inductive Piece where
  | scalar (character : Char)
  /-- Octets that begin no character. -/
  | malformed (length : Nat)
  /-- The input ends after this many octets of a character. -/
  | truncated (length : Nat)
deriving DecidableEq, Repr

/-- The inside of a character: how many octets are missing, the range the next
one has to lie in, the code point so far and the octets read. -/
structure Partial where
  missing : Nat
  low : UInt8
  high : UInt8
  code : Nat
  length : Nat
deriving DecidableEq, Repr

/-- What the first octet of a piece tells. -/
inductive Lead where
  | piece (piece : Piece)
  | inside (state : Partial)

/-- Classify the first octet of a piece.  The range of the second octet rules out
overlong forms, surrogates and code points past the last. -/
def lead (octet : UInt8) : Lead :=
  let code := octet.toNat
  if code < 0x80 then .piece (.scalar (Char.ofNat code))
  else if code < 0xC2 then .piece (.malformed 1)
  else if code < 0xE0 then .inside ⟨1, 0x80, 0xBF, code - 0xC0, 1⟩
  else if code = 0xE0 then .inside ⟨2, 0xA0, 0xBF, code - 0xE0, 1⟩
  else if code = 0xED then .inside ⟨2, 0x80, 0x9F, code - 0xE0, 1⟩
  else if code < 0xF0 then .inside ⟨2, 0x80, 0xBF, code - 0xE0, 1⟩
  else if code = 0xF0 then .inside ⟨3, 0x90, 0xBF, code - 0xF0, 1⟩
  else if code < 0xF4 then .inside ⟨3, 0x80, 0xBF, code - 0xF0, 1⟩
  else if code = 0xF4 then .inside ⟨3, 0x80, 0x8F, code - 0xF0, 1⟩
  else .piece (.malformed 1)

/-- The pieces of the remaining octets. -/
def pieces : Option Partial → List UInt8 → List Piece
  | none, [] => []
  | some state, [] => [.truncated state.length]
  | none, octet :: rest =>
      match lead octet with
      | .piece piece => piece :: pieces none rest
      | .inside state => pieces (some state) rest
  | some state, octet :: rest =>
      if state.low ≤ octet && octet ≤ state.high then
        let code := state.code * 64 + (octet.toNat - 0x80)
        if state.missing ≤ 1 then .scalar (Char.ofNat code) :: pieces none rest
        else pieces (some ⟨state.missing - 1, 0x80, 0xBF, code, state.length + 1⟩) rest
      else
        .malformed state.length ::
          match lead octet with
          | .piece piece => piece :: pieces none rest
          | .inside state => pieces (some state) rest

/-- Why octets are no text. -/
inductive Error where
  | malformed (length index : Nat)
  | truncated (index : Nat)
deriving DecidableEq, Repr

/-- The wording of a cause. -/
def Error.message : Error → String
  | .malformed length index => s!"invalid utf-8 sequence of {length} bytes from index {index}"
  | .truncated index => s!"incomplete utf-8 byte sequence from index {index}"

/-- The characters of pieces that begin at an index, if all are characters. -/
def strict : Nat → List Piece → Except Error (List Char)
  | _, [] => .ok []
  | index, .scalar character :: rest =>
      (strict (index + character.utf8Size) rest).map (character :: ·)
  | index, .malformed length :: _ => .error (.malformed length index)
  | index, .truncated _ :: _ => .error (.truncated index)

/-- The character that a piece reads as when nothing is refused. -/
def Piece.lossy : Piece → Char
  | .scalar character => character
  | .malformed _ | .truncated _ => replacement

/-- The text of octets that are nothing but text. -/
def decode (octets : List UInt8) : Except Error (List Char) :=
  strict 0 (pieces none octets)

/-- The text of octets, replacing what is no text. -/
def decodeLossy (octets : List UInt8) : List Char :=
  (pieces none octets).map Piece.lossy

end ObjectBridge.Utf8
