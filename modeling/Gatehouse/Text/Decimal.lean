/-! Reading decimal integers.  `digits?` reads a plain run of ASCII digits of any length, `natural?`
admits a plus sign in front, and `integer?` either sign.  Bounds are the caller's: each reader of a
bounded number compares the value with its bound. -/

namespace Gatehouse.Text.Decimal

def isDigit (c : Char) : Bool := '0' ≤ c && c ≤ '9'

def digitValue (c : Char) : Nat := c.toNat - 48

/-- The number that a run of digits denotes, most significant digit first. -/
def valueOf (cs : List Char) : Nat := cs.foldl (fun n c => 10 * n + digitValue c) 0

/-- Reads a non-empty run of digits, leading zeros included. -/
def digits? (cs : List Char) : Option Nat :=
  if cs.isEmpty then none else if cs.all isDigit then some (valueOf cs) else none

/-- Reads digits with an optional plus sign in front. -/
def natural? : List Char → Option Nat
  | '+' :: cs => digits? cs
  | cs => digits? cs

/-- Reads digits with an optional sign in front. -/
def integer? : List Char → Option Int
  | '-' :: cs => (digits? cs).map fun n => -(n : Int)
  | cs => (natural? cs).map Int.ofNat

def naturalBelow? (bound : Nat) (s : String) : Option Nat :=
  (natural? s.toList).filter (· < bound)

/-- Reads a number of 64 bits in two's complement. -/
def int64? (s : String) : Option Int :=
  (integer? s.toList).filter fun n => -0x8000000000000000 ≤ n && n < 0x8000000000000000

end Gatehouse.Text.Decimal
