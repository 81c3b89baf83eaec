import Gatehouse.Text.Hex

/-! Percent-encoding.  Two hexadecimal digits after a percent sign stand for an octet; a percent
sign that no two digits follow stands for itself. -/

namespace Gatehouse.Web.Percent

/-- Reads an escape whose percent sign has been read. -/
def escape? : List UInt8 → Option UInt8
  | h :: l :: _ =>
    match Text.hexValue? h.toNat, Text.hexValue? l.toNat with
    | some h, some l => some (UInt8.ofNat (16 * h + l))
    | _, _ => none
  | _ => none

/-- Decodes with the octets before in reverse, and passes over the digits of an escape read. -/
def decodeFrom (acc : List UInt8) : (skip : Nat) → List UInt8 → List UInt8
  | _, [] => acc.reverse
  | skip + 1, _ :: rest => decodeFrom acc skip rest
  | 0, b :: rest =>
    match if b == 0x25 then escape? rest else none with
    | some octet => decodeFrom (octet :: acc) 2 rest
    | none => decodeFrom (b :: acc) 0 rest

/-- The octets that a percent-encoded sequence stands for. -/
def decode (bytes : List UInt8) : List UInt8 := decodeFrom [] 0 bytes

end Gatehouse.Web.Percent
