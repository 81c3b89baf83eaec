import Gatehouse.Json.Numeral
import Gatehouse.Text.Hex
import Gatehouse.Text.Utf8

/-! The tokens of a JSON text.  `tokens` cuts octets into tokens; where no token can be read, the
last one is `malformed`.  A text token keeps the octets between its quotes, whose escapes are known
to be well formed, and `unescape?` reads them. -/

namespace Gatehouse.Json

inductive Token where
  | openRecord
  | closeRecord
  | openList
  | closeList
  | comma
  | colon
  | null
  | bool (b : Bool)
  | number (n : Numeral)
  | text (raw : List UInt8)
  /-- What cannot be read as a token. -/
  | malformed
  deriving DecidableEq, Repr

namespace Token

def isSpace (b : UInt8) : Bool := b == 0x20 || b == 0x0A || b == 0x09 || b == 0x0D

/-- The number that four hexadecimal digits denote. -/
def hex4? (a b c d : UInt8) : Option Nat :=
  [a, b, c, d].foldlM (fun n digit => (Text.hexValue? digit.toNat).map (16 * n + ·)) 0

/-- What the letter after a backslash stands for. -/
def simpleEscape? (b : UInt8) : Option UInt8 :=
  if b == 0x22 || b == 0x5C || b == 0x2F then some b
  else if b == 0x62 then some 0x08
  else if b == 0x66 then some 0x0C
  else if b == 0x6E then some 0x0A
  else if b == 0x72 then some 0x0D
  else if b == 0x74 then some 0x09
  else none

/-- Reads up to the closing quote, with the octets before in reverse. -/
def scanText (acc : List UInt8) : List UInt8 → Option (List UInt8 × List UInt8)
  | [] => none
  | 0x22 :: rest => some (acc.reverse, rest)
  | 0x5C :: 0x75 :: a :: b :: c :: d :: rest =>
    if (hex4? a b c d).isSome then scanText (d :: c :: b :: a :: 0x75 :: 0x5C :: acc) rest
    else none
  | 0x5C :: e :: rest =>
    if (simpleEscape? e).isSome then scanText (e :: 0x5C :: acc) rest else none
  | b :: rest => if b < 0x20 || b == 0x5C then none else scanText (b :: acc) rest

@[simp] theorem scanText_quote (acc rest : List UInt8) :
    scanText acc (0x22 :: rest) = some (acc.reverse, rest) := by
  rw [scanText]

/-- The character that a surrogate pair denotes. -/
def pairValue (high low : Nat) : Nat := 0x10000 + 0x400 * (high - 0xD800) + (low - 0xDC00)

/-- Reads the escapes between quotes, with the octets before in reverse.  A surrogate must be the
high half of a pair, and its low half must follow. -/
def unescapeFrom (acc : List UInt8) : List UInt8 → Option (List UInt8)
  | [] => some acc.reverse
  | 0x5C :: 0x75 :: a :: b :: c :: d :: rest =>
    match hex4? a b c d with
    | none => none
    | some n =>
      if n < 0xD800 || 0xE000 ≤ n then
        unescapeFrom ((String.utf8EncodeChar (Char.ofNat n)).reverse ++ acc) rest
      else match rest with
        | 0x5C :: 0x75 :: a :: b :: c :: d :: rest =>
          match hex4? a b c d with
          | none => none
          | some m =>
            if n < 0xDC00 && 0xDC00 ≤ m && m < 0xE000 then
              let c := Char.ofNat (pairValue n m)
              unescapeFrom ((String.utf8EncodeChar c).reverse ++ acc) rest
            else none
        | _ => none
  | 0x5C :: e :: rest =>
    match simpleEscape? e with
    | some b => unescapeFrom (b :: acc) rest
    | none => none
  | b :: rest => unescapeFrom (b :: acc) rest

@[simp] theorem unescapeFrom_nil (acc : List UInt8) : unescapeFrom acc [] = some acc.reverse := by
  rw [unescapeFrom]

/-- The text between quotes, if it is well-formed Unicode. -/
def unescape? (raw : List UInt8) : Option String := (unescapeFrom [] raw).bind Text.Utf8.decode?

/-- Takes a leading octet away. -/
def accept? (isWanted : UInt8 → Bool) : List UInt8 → Option (List UInt8)
  | b :: rest => if isWanted b then some rest else none
  | [] => none

/-- Reads a non-empty run of digits. -/
def digits? (bytes : List UInt8) : Option (List UInt8 × List UInt8) :=
  match bytes.span Numeral.isDigit with
  | ([], _) => none
  | found => some found

/-- Reads a sign, if there is one, and digits: is the sign a minus, and the digits. -/
def signed? (bytes : List UInt8) : Option ((Bool × List UInt8) × List UInt8) :=
  match bytes with
  | 0x2D :: rest => (digits? rest).map fun (ds, rest) => ((true, ds), rest)
  | 0x2B :: rest => (digits? rest).map fun (ds, rest) => ((false, ds), rest)
  | _ => (digits? bytes).map fun (ds, rest) => ((false, ds), rest)

/-- Reads a number.  Its digits have no leading zero, and digits follow a point and the mark of an
exponent. -/
def scanNumber (bytes : List UInt8) : Option (Numeral × List UInt8) := do
  let unsigned := accept? (· == 0x2D) bytes
  let (whole, rest) ← digits? (unsigned.getD bytes)
  if whole.head? == some 0x30 && whole.length != 1 then none
  let (fraction, rest) ←
    match accept? (· == 0x2E) rest with
    | some rest => digits? rest
    | none => some ([], rest)
  match accept? (fun b => b == 0x65 || b == 0x45) rest with
  | some rest =>
    let (exponent, rest) ← signed? rest
    return (⟨unsigned.isSome, whole, fraction, some exponent⟩, rest)
  | none => return (⟨unsigned.isSome, whole, fraction, none⟩, rest)

/-- Takes a word away. -/
def word? : (word : List UInt8) → List UInt8 → Option (List UInt8)
  | [], rest => some rest
  | w :: word, b :: rest => if w == b then word? word rest else none
  | _ :: _, [] => none

/-- Reads the token that starts with an octet which is no white space. -/
def scanToken (b : UInt8) (rest : List UInt8) : Option (Token × List UInt8) :=
  if b == 0x7B then some (.openRecord, rest)
  else if b == 0x7D then some (.closeRecord, rest)
  else if b == 0x5B then some (.openList, rest)
  else if b == 0x5D then some (.closeList, rest)
  else if b == 0x2C then some (.comma, rest)
  else if b == 0x3A then some (.colon, rest)
  else if b == 0x22 then (scanText [] rest).map fun (raw, rest) => (.text raw, rest)
  else if b == 0x6E then (word? [0x75, 0x6C, 0x6C] rest).map (.null, ·)
  else if b == 0x74 then (word? [0x72, 0x75, 0x65] rest).map (.bool true, ·)
  else if b == 0x66 then (word? [0x61, 0x6C, 0x73, 0x65] rest).map (.bool false, ·)
  else (scanNumber (b :: rest)).map fun (n, rest) => (.number n, rest)

/-- Reads tokens with those before in reverse; every step uses up an octet, so as much fuel as
there are octets is enough. -/
def scan (acc : List Token) : (fuel : Nat) → List UInt8 → List Token
  | _, [] => acc.reverse
  | 0, _ => acc.reverse
  | fuel + 1, b :: rest =>
    if isSpace b then scan acc fuel rest
    else match scanToken b rest with
      | some (t, rest) => scan (t :: acc) fuel rest
      | none => (malformed :: acc).reverse

def tokens (bytes : List UInt8) : List Token := scan [] bytes.length bytes

end Token

end Gatehouse.Json
