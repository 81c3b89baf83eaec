import Gatehouse.Text.VisibleRanges
import Gatehouse.Text.Word

/-! Quoted texts for diagnostics.  A text stands between double quotes; a control character, the
quote, the backslash and whatever would not show by itself are escaped. -/

namespace Gatehouse.Text.Quoted

/-- A character that shows by itself. -/
def isVisible (c : Char) : Bool :=
  if c.toNat < 128 then 32 ≤ c.toNat && c.toNat < 127
  else inRanges VisibleRanges.all c.toNat

/-- One character as it stands between the quotes. -/
def escape : Char → List Char
  | '\x00' => ['\\', '0']
  | '\t' => ['\\', 't']
  | '\r' => ['\\', 'r']
  | '\n' => ['\\', 'n']
  | '\\' => ['\\', '\\']
  | '"' => ['\\', '"']
  | c =>
    if isVisible c then [c]
    else ['\\', 'u', '\x7b'] ++ Nat.toDigits 16 c.toNat ++ ['\x7d']

def quote (s : String) : String := String.ofList ('"' :: s.toList.flatMap escape ++ ['"'])

end Gatehouse.Text.Quoted
