/-! Hexadecimal digits. -/

namespace Gatehouse.Text

/-- The value of the hexadecimal digit with a code point, in either case. -/
def hexValue? (code : Nat) : Option Nat :=
  if 48 ≤ code && code ≤ 57 then some (code - 48)
  else if 65 ≤ code && code ≤ 70 then some (code - 55)
  else if 97 ≤ code && code ≤ 102 then some (code - 87)
  else none

end Gatehouse.Text
