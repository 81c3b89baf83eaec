/-! UTF-8, one octet at a time.  The state of the reader says what the next octet may be, so a
sequence is refused at the first octet that cannot go on with it.  `decode?` reads a well-formed
sequence, `decodeLossy` puts U+FFFD where a maximal piece of a sequence breaks off, and `encode`
writes. -/

namespace Gatehouse.Text.Utf8

/-- Between two characters, or inside one: the bits read so far, the number of octets that must
still come, and the bounds of the next one. -/
inductive State where
  | start
  | within (bits : Nat) (more : Nat) (low high : UInt8)
  deriving DecidableEq, Repr

/-- What one octet does: it ends a character, goes on with one, or fits neither. -/
inductive Step where
  | done (c : Char)
  | more (s : State)
  | bad
  deriving Repr

/-- The first octet of a character. -/
def first (b : UInt8) : Step :=
  let n := b.toNat
  if b < 0x80 then .done (Char.ofNat n)
  else if b < 0xC2 then .bad
  else if b < 0xE0 then .more (.within (n - 0xC0) 0 0x80 0xBF)
  else if b == 0xE0 then .more (.within 0 1 0xA0 0xBF)
  else if b == 0xED then .more (.within 13 1 0x80 0x9F)
  else if b < 0xF0 then .more (.within (n - 0xE0) 1 0x80 0xBF)
  else if b == 0xF0 then .more (.within 0 2 0x90 0xBF)
  else if b < 0xF4 then .more (.within (n - 0xF0) 2 0x80 0xBF)
  else if b == 0xF4 then .more (.within 4 2 0x80 0x8F)
  else .bad

def step : State → UInt8 → Step
  | .start, b => first b
  | .within bits more low high, b =>
    if low ≤ b && b ≤ high then
      let bits := 64 * bits + (b.toNat - 0x80)
      match more with
      | 0 => .done (Char.ofNat bits)
      | more + 1 => .more (.within bits more 0x80 0xBF)
    else .bad

/-- Reads a whole sequence, with the characters before it in reverse. -/
def decodeFrom (acc : List Char) : State → List UInt8 → Option (List Char)
  | .start, [] => some acc.reverse
  | .within .., [] => none
  | s, b :: rest =>
    match step s b with
    | .done c => decodeFrom (c :: acc) .start rest
    | .more s => decodeFrom acc s rest
    | .bad => none

/-- The text that a sequence of octets encodes, if it is well formed. -/
def decode? (bytes : List UInt8) : Option String :=
  (decodeFrom [] .start bytes).map String.ofList

/-- The character that stands for what cannot be read. -/
def replacement : Char := '\uFFFD'

/-- Reads any sequence, with the characters before it in reverse: one `replacement` for each piece
that breaks off, and the octet that broke it is read again as a first one. -/
def decodeLossyFrom (acc : List Char) : State → List UInt8 → List Char
  | .start, [] => acc.reverse
  | .within .., [] => (replacement :: acc).reverse
  | s, b :: rest =>
    match step s b, s with
    | .done c, _ => decodeLossyFrom (c :: acc) .start rest
    | .more s, _ => decodeLossyFrom acc s rest
    | .bad, .start => decodeLossyFrom (replacement :: acc) .start rest
    | .bad, .within .. =>
      match first b with
      | .done c => decodeLossyFrom (c :: replacement :: acc) .start rest
      | .more s => decodeLossyFrom (replacement :: acc) s rest
      | .bad => decodeLossyFrom (replacement :: replacement :: acc) .start rest

/-- The text of a sequence of octets, whatever they are. -/
def decodeLossy (bytes : List UInt8) : String := String.ofList (decodeLossyFrom [] .start bytes)

def encode (s : String) : List UInt8 := s.toList.flatMap String.utf8EncodeChar

end Gatehouse.Text.Utf8
