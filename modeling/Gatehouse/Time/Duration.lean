/-! Lengths of time.  A length is written in the largest of four units that it fills, with the
fraction of the unit as far as it has digits. -/

namespace Gatehouse.Time

/-- A length of time in nanoseconds. -/
structure Duration where
  nanos : Nat
  deriving DecidableEq, Repr

namespace Duration

def ofSeconds (n : Nat) : Duration := ⟨n * 1000000000⟩

def ofMillis (n : Nat) : Duration := ⟨n * 1000000⟩

/-- A number in decimal digits, filled with zeros in front. -/
def padded (width n : Nat) : List Char :=
  let digits := Nat.toDigits 10 n
  List.replicate (width - digits.length) '0' ++ digits

/-- A fraction of so many digits after its point, without the zeros at the end. -/
def fractionText (width n : Nat) : String :=
  match ((padded width n).reverse.dropWhile (· == '0')).reverse with
  | [] => ""
  | digits => String.ofList ('.' :: digits)

/-- A number of nanoseconds in a unit of `10 ^ width` nanoseconds. -/
def inUnit (width n : Nat) : String :=
  toString (n / Nat.pow 10 width) ++ fractionText width (n % Nat.pow 10 width)

def text (d : Duration) : String :=
  if 1000000000 ≤ d.nanos then inUnit 9 d.nanos ++ "s"
  else if 1000000 ≤ d.nanos then inUnit 6 d.nanos ++ "ms"
  else if 1000 ≤ d.nanos then inUnit 3 d.nanos ++ "µs"
  else inUnit 0 d.nanos ++ "ns"

end Duration

end Gatehouse.Time
