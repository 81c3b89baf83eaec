/-! Numbers as they stand in a JSON text.  `Numeral` keeps the parts of the spelling, `word64?` is
the value of a plain run of digits, and `tooLarge` says that the number lies beyond the range of
double-precision floating point. -/

namespace Gatehouse.Json

/-- The spelling of a number: its sign, the digits before and after the point, and the sign and the
digits of the exponent. -/
structure Numeral where
  negative : Bool
  whole : List UInt8
  fraction : List UInt8
  exponent : Option (Bool × List UInt8)
  deriving DecidableEq, Repr

namespace Numeral

def isDigit (b : UInt8) : Bool := 0x30 ≤ b && b ≤ 0x39

def digitValue (b : UInt8) : Nat := b.toNat - 0x30

/-- Reads digits for as long as the number so far fits into 64 bits: the number, and how many
digits are left. -/
def significand (start : Nat) : List UInt8 → Nat × Nat
  | [] => (start, 0)
  | b :: rest =>
    let next := 10 * start + digitValue b
    if next < UInt64.size then significand next rest else (start, rest.length + 1)

/-- The value of an unsigned number of 64 bits without fraction and exponent. -/
def word64? (n : Numeral) : Option Nat :=
  if n.negative || !n.fraction.isEmpty || n.exponent.isSome then none
  else match significand 0 n.whole with
    | (value, 0) => some value
    | _ => none

/-- The exponent, where one of more than 64 bits counts as `2 ^ 64`. -/
def exponentValue (n : Numeral) : Int :=
  match n.exponent with
  | none => 0
  | some (negative, digits) =>
    let size : Int := match significand 0 digits with
      | (value, 0) => value
      | _ => UInt64.size
    if negative then -size else size

/-- The double nearest to a natural number, ties to the even one, without regard to its range. -/
def nearestDouble (n : Nat) : Nat :=
  if n < 1 <<< 53 then n
  else
    let unit := 1 <<< (Nat.log2 n - 52)
    let q := n / unit
    let r := n % unit
    if 2 * r < unit || (2 * r == unit && q % 2 == 0) then q * unit else (q + 1) * unit

/-- From here on a number rounds to infinity. -/
def infinityBound : Nat := 1 <<< 1024 - 1 <<< 970

/-- A number beyond the range of doubles.  Its digits are read as far as 64 bits hold them, and the
power of ten that remains is a factor of its own. -/
def tooLarge (n : Numeral) : Bool :=
  let (front, dropped) := significand 0 n.whole
  let (digits, cut) := significand front n.fraction
  let power : Int := n.exponentValue + dropped - (n.fraction.length - cut)
  if digits == 0 then false
  else if power < 0 then false
  else if power > 308 then true
  else nearestDouble digits * nearestDouble (Nat.pow 10 power.toNat) ≥ infinityBound

end Numeral

end Gatehouse.Json
