/-! Base64 in the alphabet for addresses and without padding.  Three octets are written as four
characters, and one or two octets at the end as two or three.  `decode?` reads what `encode` writes
and nothing else. -/

namespace Gatehouse.Crypto.Base64Url

/-- The character for six bits. -/
def digit (n : Nat) : Char :=
  if n < 26 then Char.ofNat (65 + n)
  else if n < 52 then Char.ofNat (71 + n)
  else if n < 62 then Char.ofNat (n - 4)
  else if n == 62 then '-'
  else '_'

/-- Writes octets after characters that stand in reverse. -/
def encodeFrom (acc : List Char) : List UInt8 → List Char
  | [] => acc.reverse
  | [a] =>
    let n := a.toNat
    (digit (n % 4 * 16) :: digit (n / 4) :: acc).reverse
  | [a, b] =>
    let n := 256 * a.toNat + b.toNat
    (digit (n % 16 * 4) :: digit (n / 16 % 64) :: digit (n / 1024) :: acc).reverse
  | a :: b :: c :: rest =>
    let n := 65536 * a.toNat + 256 * b.toNat + c.toNat
    encodeFrom (digit (n % 64) :: digit (n / 64 % 64) :: digit (n / 4096 % 64) ::
      digit (n / 262144) :: acc) rest

/-- The characters of a sequence of octets. -/
def encode (bytes : List UInt8) : String := String.ofList (encodeFrom [] bytes)

/-- The six bits that a character stands for. -/
def value? (c : Char) : Option Nat :=
  if c.isUpper then some (c.toNat - 65)
  else if c.isLower then some (c.toNat - 71)
  else if c.isDigit then some (c.toNat + 4)
  else if c == '-' then some 62
  else if c == '_' then some 63
  else none

/-- Reads characters after octets that stand in reverse.  The bits at the end that belong to no
octet are zero. -/
def decodeFrom (acc : List UInt8) : List Char → Option (List UInt8)
  | [] => some acc.reverse
  | [_] => none
  | [a, b] => do
    let n := 64 * (← value? a) + (← value? b)
    if n % 16 == 0 then return (UInt8.ofNat (n / 16) :: acc).reverse else none
  | [a, b, c] => do
    let n := 4096 * (← value? a) + 64 * (← value? b) + (← value? c)
    if n % 4 == 0 then
      return (UInt8.ofNat (n / 4) :: UInt8.ofNat (n / 1024) :: acc).reverse
    else none
  | a :: b :: c :: d :: rest =>
    match value? a, value? b, value? c, value? d with
    | some a, some b, some c, some d =>
      let n := 262144 * a + 4096 * b + 64 * c + d
      decodeFrom (UInt8.ofNat n :: UInt8.ofNat (n / 256) :: UInt8.ofNat (n / 65536) :: acc) rest
    | _, _, _, _ => none

/-- The octets that characters stand for. -/
def decode? (cs : List Char) : Option (List UInt8) := decodeFrom [] cs

end Gatehouse.Crypto.Base64Url
