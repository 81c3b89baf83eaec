import Gatehouse.Web.Header
import Gatehouse.Web.Target

/-! Media types.  `isJson` says whether the content type of a request is JSON: the type is
`application`, and the subtype, or its suffix after a plus sign, is `json`.  Parameters count for
nothing but must be well formed. -/

namespace Gatehouse.Web.MediaType

open Text

/-- A place among the parameters of a media type. -/
inductive Place where
  | gap
  | name
  | valueStart
  | value
  | quotedStart
  | quoted
  | afterQuoted
  deriving DecidableEq, Repr

/-- A character that may stand between quotes. -/
def isQuotedChar (c : Char) : Bool := 32 ≤ c.toNat && c.toNat != 127

/-- The place after one more character. -/
def Place.step (p : Place) (c : Char) : Option Place :=
  match p with
  | .gap => if c == ' ' then some .gap else if isTokenChar c then some .name else none
  | .name => if isTokenChar c then some .name else if c == '=' then some .valueStart else none
  | .valueStart =>
    if c == '"' then some .quotedStart else if isTokenChar c then some .value else none
  | .value => if isTokenChar c then some .value else if c == ';' then some .gap else none
  | .quotedStart => if isQuotedChar c then some .quoted else none
  | .quoted => if c == '"' then some .afterQuoted else if isQuotedChar c then some .quoted else none
  | .afterQuoted => if c == ' ' then some .afterQuoted else if c == ';' then some .gap else none

/-- May the parameters end here? -/
def Place.mayEnd : Place → Bool
  | .gap | .valueStart | .value | .afterQuoted => true
  | .name | .quotedStart | .quoted => false

/-- Are the parameters after the first semicolon well formed? -/
def areParameters (cs : List Char) : Bool :=
  match cs.foldlM Place.step .gap with
  | some p => p.mayEnd
  | none => false

/-- The subtype before its last plus sign and the suffix after it, in lower case.  A plus sign in
front is part of the subtype. -/
def cutSuffix (subtype : List Char) : String × Option String :=
  let lower := fun (cs : List Char) => asciiLower (String.ofList cs)
  match cutAt (· == '+') subtype.reverse with
  | (back, some front) =>
    if front.isEmpty then (lower subtype, none)
    else (lower front.reverse, some (lower back.reverse))
  | (_, none) => (lower subtype, none)

def isJsonText (s : String) : Bool :=
  match cutAt (· == '/') s.toList with
  | (_, none) => false
  | (type, some rest) =>
    let (subtype, parameters) := cutAt (· == ';') rest
    let (name, suffix) := cutSuffix subtype
    asciiLower (String.ofList type) == "application" && (name == "json" || suffix == some "json") &&
      subtype.all isTokenChar && areParameters (parameters.getD [])

def isJson (headers : Headers) : Bool :=
  match (headers.first? "content-type").bind readable? with
  | some s => isJsonText s
  | none => false

end Gatehouse.Web.MediaType
