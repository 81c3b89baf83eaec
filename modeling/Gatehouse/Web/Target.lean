import Gatehouse.Text.Ascii
import Gatehouse.Text.Split

/-! Request targets.  A target is a path with a query, an address with a scheme and an authority in
front of them, an authority alone, or an asterisk; `Target.parse?` refuses every other text.  A
fragment at the end is dropped. -/

namespace Gatehouse.Web

open Text

/-- The path of a request and its query, both as they were sent. -/
structure Target where
  path : List UInt8
  query : Option (List UInt8)
  deriving DecidableEq, Repr

namespace Target

def between (low high b : UInt8) : Bool := low ≤ b && b ≤ high

def isPathOctet (b : UInt8) : Bool :=
  b == 0x21 || b == 0x22 || between 0x24 0x3B b || b == 0x3D || between 0x40 0x5F b ||
    between 0x61 0x7E b || 0x80 ≤ b

def isQueryOctet (b : UInt8) : Bool :=
  b == 0x21 || between 0x24 0x3B b || b == 0x3D || between 0x3F 0x7E b || 0x80 ≤ b

def pathAndQuery? (bytes : List UInt8) : Option Target :=
  let (bytes, _) := cutAt (· == 0x23) bytes
  let (path, query) := cutAt (· == 0x3F) bytes
  if path.all isPathOctet && (query.getD []).all isQueryOctet then some ⟨path, query⟩ else none

def isAlphanumeric (b : UInt8) : Bool :=
  between 0x30 0x39 b || between 0x41 0x5A b || between 0x61 0x7A b

/-- An octet that may stand in an authority, apart from those with a meaning of their own. -/
def isPlainAuthorityOctet (b : UInt8) : Bool :=
  isAlphanumeric b || b == 0x21 || b == 0x24 || between 0x26 0x2E b || b == 0x3B || b == 0x3D ||
    b == 0x5F || b == 0x7E

/-- What has been seen of an authority: the colons since the last at sign or bracket, the brackets,
whether a percent sign is still to be accounted for, and whether anything came last and whether it
was an at sign. -/
structure Authority where
  colons : Nat := 0
  opened : Bool := false
  closed : Bool := false
  percent : Bool := false
  isEmpty : Bool := true
  endsInAt : Bool := false
  deriving DecidableEq, Repr

/-- Takes one more octet into an authority. -/
def Authority.step (a : Authority) (b : UInt8) : Option Authority :=
  let a := { a with isEmpty := false, endsInAt := false }
  if b == 0x3A then
    if 8 ≤ a.colons then none else some { a with colons := a.colons + 1 }
  else if b == 0x5B then
    if a.percent || a.opened then none else some { a with opened := true }
  else if b == 0x5D then
    if !a.opened || a.closed then none
    else some { a with closed := true, colons := 0, percent := false }
  else if b == 0x40 then some { a with colons := 0, percent := false, endsInAt := true }
  else if b == 0x25 then some { a with percent := true }
  else if isPlainAuthorityOctet b then some a
  else none

/-- May the authority end here?  Brackets come in pairs, at most one colon stands before a port, and
a percent sign belongs to the user's name or to a zone. -/
def Authority.isComplete (a : Authority) : Bool :=
  a.opened == a.closed && a.colons ≤ 1 && !a.endsInAt && !a.percent

def endsAuthority (b : UInt8) : Bool := b == 0x2F || b == 0x3F || b == 0x23

/-- Reads an authority; what is left begins with an octet that ends it. -/
def scanAuthority (a : Authority) : List UInt8 → Option (Authority × List UInt8)
  | [] => if a.isComplete then some (a, []) else none
  | b :: rest =>
    if endsAuthority b then if a.isComplete then some (a, b :: rest) else none
    else match a.step b with
      | some a => scanAuthority a rest
      | none => none

def isSchemeOctet (b : UInt8) : Bool :=
  isAlphanumeric b || b == 0x2B || b == 0x2D || b == 0x2E || b == 0x7E

def maxSchemeLength : Nat := 64

/-- The scheme in front, if there is one, and what comes after its colon and slashes. -/
def cutScheme (bytes : List UInt8) : Option (List UInt8 × List UInt8) :=
  match bytes.span isSchemeOctet with
  | (scheme, 0x3A :: 0x2F :: 0x2F :: rest) => some (scheme, rest)
  | _ => none

def maxLength : Nat := 65534

def parse? (bytes : List UInt8) : Option Target :=
  if maxLength < bytes.length then none
  else match bytes with
    | [] => none
    | [0x2A] => some ⟨[0x2A], none⟩
    | 0x2F :: _ => pathAndQuery? bytes
    | _ =>
      match cutScheme bytes with
      | none =>
        match scanAuthority {} bytes with
        | some (_, []) => some ⟨[], none⟩
        | _ => none
      | some (scheme, rest) =>
        if maxSchemeLength < scheme.length then none
        else match scanAuthority {} rest with
          | some (authority, rest) =>
            if authority.isEmpty then none
            else (pathAndQuery? rest).map fun t =>
              if t.path.isEmpty then { t with path := [0x2F] } else t
          | none => none

end Target

/-- A character of a token, such as the name of a method. -/
def isTokenChar (c : Char) : Bool :=
  c.isAlphanum || "!#$%&'*+-.^_\x60|~".toList.contains c

def isMethod (s : String) : Bool := !s.isEmpty && s.toList.all isTokenChar

end Gatehouse.Web
