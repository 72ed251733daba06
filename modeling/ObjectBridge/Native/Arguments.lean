import ObjectBridge.Error.Cause
import ObjectBridge.Native.Memory

/-!
# Native argument lists

A host passes arguments as two buffers of equal length, one of tags and one of
addresses, and their count.  The tag says what kind of value lies at the address;
for a pointer, the address is the value.  Decoding goes through the arguments in
order and stops at the first one that it cannot decode.
-/

namespace ObjectBridge

/-- The buffers and the count as the host passes them.  A missing buffer is a null
pointer. -/
structure ArgumentBuffers where
  tags : Option (List Int32)
  addresses : Option (List Address)
  count : Int32
deriving DecidableEq, Repr

/-- An argument list: the tag and the address of each argument. -/
structure EncodedArguments where
  entries : List (Int32 × Address)
deriving DecidableEq, Repr

namespace EncodedArguments

/-- The list without arguments. -/
def empty : EncodedArguments := ⟨[]⟩

/-- The number of arguments. -/
def length (arguments : EncodedArguments) : Nat := arguments.entries.length

/-- Take the arguments out of the buffers.  A count of zero needs no buffers. -/
def ofBuffers (buffers : ArgumentBuffers) : Except MarshalError EncodedArguments :=
  if buffers.count < 0 then .error (.negativeCount buffers.count)
  else if buffers.count = 0 then .ok empty
  else
    match buffers.tags, buffers.addresses with
    | some tags, some addresses => .ok ⟨(tags.zip addresses).take buffers.count.toInt.toNat⟩
    | _, _ => .error (.nullBuffers buffers.count)

end EncodedArguments

/-- Decode the value of a kind at an address; `index` is the position of the
argument. -/
def decodeValue (memory : Memory) (index : Nat) (kind : Kind) (address : Address) :
    Except MarshalError Value :=
  if kind = .pointer then .ok (.pointer address)
  else if address.isNull then .error (.nullValue index kind)
  else .ok (.ofOctets kind (memory.read address kind.width))

/-- Decode one argument.  An unknown tag is reported before a null address. -/
def decodeEntry (memory : Memory) (index : Nat) (entry : Int32 × Address) :
    Except MarshalError Value :=
  match Kind.ofCode? entry.1 with
  | some kind => decodeValue memory index kind entry.2
  | none => .error (.unknownTag (some index) entry.1)

/-- Decode arguments in order, counting positions from `index`. -/
def decodeFrom (memory : Memory) : Nat → List (Int32 × Address) →
    Except MarshalError (List Value)
  | _, [] => .ok []
  | index, entry :: rest => do
      let value ← decodeEntry memory index entry
      let values ← decodeFrom memory (index + 1) rest
      return value :: values

namespace EncodedArguments

/-- Decode all arguments. -/
def decode (memory : Memory) (arguments : EncodedArguments) : Except MarshalError (List Value) :=
  decodeFrom memory 0 arguments.entries

end EncodedArguments

/-- Take the arguments out of the buffers and decode them. -/
def ArgumentBuffers.decode (memory : Memory) (buffers : ArgumentBuffers) :
    Except MarshalError (List Value) := do
  let arguments ← EncodedArguments.ofBuffers buffers
  arguments.decode memory

end ObjectBridge
