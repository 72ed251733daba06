import ObjectBridge.Source.Reader
import ObjectBridge.Source.Token.Literal

/-!
# Members

A member of a value is a name or a number.  A number is written in decimal without
underscores, whatever base it was written in; it has no suffix and fits a word of
thirty-two bits.  After a point a number may have been taken for one with a fraction; it
stands for a member of a member.
-/

namespace ObjectBridge.Source

/-- The number that figures of a base spell, underscores ignored, if there is at least one
and nothing else. -/
def memberNumber? (base : Nat) (figures : List Char) : Option Nat := do
  let digits := figures.filter (· ≠ '_')
  guard (digits ≠ [] && digits.all fun digit => digit.isAlphanum && hexDigit digit < base)
  let number := numberOf base digits
  guard (number < UInt32.size)
  return number

/-- A numbered member as it is written. -/
def numberedMember? (literal : List Char) : Option Token := do
  let number ← match literal with
    | '0' :: 'x' :: figures => memberNumber? 16 figures
    | '0' :: 'o' :: figures => memberNumber? 8 figures
    | '0' :: 'b' :: figures => memberNumber? 2 figures
    | figures => memberNumber? 10 figures
  return ⟨.number, toString number⟩

/-- The members that a number after a point stands for; a point is between them, or after
the only one. -/
def numberedMembers? (literal : List Char) : Option (List Token) := do
  let first ← numberedMember? (literal.takeWhile (· ≠ '.'))
  match literal.dropWhile (· ≠ '.') with
  | [] => return [first]
  | [_] => return [first, .alone "."]
  | _ :: fraction => return [first, .alone ".", ← numberedMember? fraction]

namespace Reader

/-- A member: a name or a number. -/
def member : Reader (List Token) := do
  if ← ahead (startsKind .number) then
    let number ← token fun _ => true
    return [← numberedMember? number.text.toList]
  else name

/-- A member after a point; a word may stand for the value that is waited for. -/
def pointMember : Reader (List Token) := do
  if ← ahead (startsKind .word) then one fun token => token.isName || token.isWord "await"
  else member

/-- A point and the members after it. -/
def access : Reader (List Token) := do
  let point ← operator "."
  if ← ahead (startsKind .number) then
    let number ← token fun _ => true
    let members ← numberedMembers? number.text.toList
    let last ← if members.length = 2 then pointMember else pure []
    return point ++ members ++ last
  else return point ++ (← pointMember)

end Reader

end ObjectBridge.Source
