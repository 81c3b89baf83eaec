import Gatehouse.Text.Decimal
import Gatehouse.Text.Hex
import Gatehouse.Text.Split

/-! Internet addresses.  `IpAddress.parse?` reads the two kinds of address literals: four decimal
octets, or eight groups of hexadecimal digits of which one run of zeros may be left out and the
last two may be written as four octets.  `IpAddress.text` writes the canonical literal. -/

namespace Gatehouse.Net

open Text

/-- An address of either version of the protocol. -/
inductive IpAddress where
  | v4 (octets : Vector UInt8 4)
  | v6 (groups : Vector UInt16 8)
  deriving DecidableEq, Repr

namespace IpAddress

/-- A group of one to four hexadecimal digits. -/
def group? (cs : List Char) : Option UInt16 :=
  if cs.isEmpty || 4 < cs.length then none
  else (cs.foldlM (fun n c => (hexValue? c.toNat).map (16 * n + ·)) 0).map UInt16.ofNat

/-- An octet in one to three decimal digits without a leading zero. -/
def octet? (cs : List Char) : Option UInt8 :=
  if 3 < cs.length || (cs.head? == some '0' && cs.length != 1) then none
  else ((Decimal.digits? cs).filter (· < 256)).map UInt8.ofNat

/-- Four octets between dots. -/
def octets? (cs : List Char) : Option (Vector UInt8 4) := do
  let octets ← (pieces (· == '.') cs).mapM octet?
  if h : octets.length = 4 then some ⟨octets.toArray, by simpa using h⟩ else none

/-- Groups between colons. -/
def groups? : List (List Char) → Option (List UInt16)
  | [] => some []
  | piece :: rest => do return (← group? piece) :: (← groups? rest)

/-- The group that two octets make up. -/
def pairOf (high low : UInt8) : UInt16 := 256 * high.toUInt16 + low.toUInt16

/-- Groups between colons, the last two of which may be written as four octets. -/
def words? : List (List Char) → Option (List UInt16)
  | [] => some []
  | [piece] =>
    match octets? piece with
    | some o => some [pairOf o[0] o[1], pairOf o[2] o[3]]
    | none => groups? [piece]
  | piece :: rest => do return (← group? piece) :: (← words? rest)

/-- The pieces between colons of what may be empty. -/
def colonPieces (cs : List Char) : List (List Char) :=
  if cs.isEmpty then [] else pieces (· == ':') cs

/-- What stands before and after the first two colons in a row. -/
def cutDoubleColon : List Char → Option (List Char × List Char)
  | ':' :: ':' :: rest => some ([], rest)
  | c :: rest => (cutDoubleColon rest).map fun (front, back) => (c :: front, back)
  | [] => none

/-- Eight groups, of which two colons in a row stand for one or more that are zero. -/
def groups8? (cs : List Char) : Option (Vector UInt16 8) := do
  let groups ← match cutDoubleColon cs with
    | none => words? (colonPieces cs)
    | some (front, back) => do
      let front ← groups? (colonPieces front)
      let back ← words? (colonPieces back)
      if 7 < front.length + back.length then none
      else some (front ++ List.replicate (8 - front.length - back.length) 0 ++ back)
  if h : groups.length = 8 then some ⟨groups.toArray, by simpa using h⟩ else none

def parse? (s : String) : Option IpAddress :=
  match octets? s.toList with
  | some octets => some (.v4 octets)
  | none => (groups8? s.toList).map .v6

/-- Four octets between dots. -/
def dotted (octets : List Nat) : String := ".".intercalate (octets.map toString)

/-- A group without leading zeros. -/
def hexText (g : UInt16) : String := String.ofList (Nat.toDigits 16 g.toNat)

/-- Groups between colons. -/
def colonText (groups : List UInt16) : String := ":".intercalate (groups.map hexText)

/-- The length of the run of zeros in front. -/
def zeroRun (groups : List UInt16) : Nat := (groups.takeWhile (· == 0)).length

/-- The place and the length of the first of the longest runs of zeros. -/
def longestRun : (place : Nat) → List UInt16 → Nat × Nat
  | place, [] => (place, 0)
  | place, g :: rest =>
    let here := zeroRun (g :: rest)
    let later := longestRun (place + 1) rest
    if later.2 ≤ here then (place, here) else later

/-- The canonical literal of eight groups. -/
def groupsText (groups : List UInt16) : String :=
  match groups with
  | [0, 0, 0, 0, 0, 0xFFFF, a, b] =>
    "::ffff:" ++ dotted [a.toNat / 256, a.toNat % 256, b.toNat / 256, b.toNat % 256]
  | _ =>
    let (place, length) := longestRun 0 groups
    if length < 2 then colonText groups
    else colonText (groups.take place) ++ "::" ++ colonText (groups.drop (place + length))

/-- The canonical literal of an address. -/
def text : IpAddress → String
  | .v4 octets => dotted (octets.toList.map UInt8.toNat)
  | .v6 groups => groupsText groups.toList

end IpAddress

structure SocketAddress where
  ip : IpAddress
  port : UInt16
  deriving DecidableEq, Repr

namespace SocketAddress

def port? (cs : List Char) : Option UInt16 :=
  ((Decimal.digits? cs).filter (· < 65536)).map UInt16.ofNat

/-- What stands in brackets, less the zone after a percent sign. -/
def withoutZone (cs : List Char) : Option (List Char) :=
  match cutAt (· == '%') cs with
  | (front, none) => some front
  | (front, some zone) =>
    if ((Decimal.digits? zone).filter (· < UInt32.size)).isSome then some front else none

/-- Reads an address and a port, with the groups of an address between brackets. -/
def parse? (s : String) : Option SocketAddress :=
  match s.toList with
  | '[' :: rest =>
    match cutAt (· == ']') rest with
    | (inside, some (':' :: port)) => do
      return ⟨.v6 (← IpAddress.groups8? (← withoutZone inside)), ← port? port⟩
    | _ => none
  | cs =>
    match cutAt (· == ':') cs with
    | (front, some port) => do return ⟨.v4 (← IpAddress.octets? front), ← port? port⟩
    | _ => none

end SocketAddress

end Gatehouse.Net
