import Gatehouse.Text.Ascii

/-! Header lists.  Names are compared without regard to the case of ASCII letters, and of several
headers with one name the first is the one that is read. -/

namespace Gatehouse.Web

/-- Headers in order, each with the octets of its value. -/
abbrev Headers := List (String × List UInt8)

namespace Headers

/-- The value of the first header with a name. -/
def first? (headers : Headers) (name : String) : Option (List UInt8) :=
  (headers.find? fun h => Text.sameUpToCase h.1 name).map Prod.snd

end Headers

/-- The text of a header value, if it has only visible ASCII characters, spaces and tabs. -/
def readable? (value : List UInt8) : Option String :=
  if value.all fun b => (0x20 ≤ b && b < 0x7F) || b == 0x09 then
    some (String.ofList (value.map fun b => Char.ofNat b.toNat))
  else none

/-- An octet that a header value may hold. -/
def isValueOctet (b : UInt8) : Bool := (0x20 ≤ b && b != 0x7F) || b == 0x09

end Gatehouse.Web
