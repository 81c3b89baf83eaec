import Gatehouse.Json.Skip

/-! Reading a JSON text as a value of a known shape.  A shape names the fields of a record with the
kind of value that each takes.  The record may also be written as the list of its fields in order.
Members with other keys are passed over.  The first fault in reading order decides the error:
`malformed` for what is no JSON text, `mismatch` for what is one so far but does not fit the
shape.  A field left out is noticed at the end of the record, and text after the record last. -/

namespace Gatehouse.Json

/-- Why a text was refused. -/
inductive ReadError where
  | malformed
  | mismatch
  deriving DecidableEq, Repr

/-- The values that a field takes. -/
inductive FieldKind where
  | text
  | textOrNull
  | word32
  | textsOrNull
  deriving DecidableEq, Repr

inductive FieldValue where
  | null
  | text (s : String)
  | number (n : UInt32)
  | texts (items : List String)
  deriving DecidableEq, Repr

/-- A field: its key, its kind, and whether a list of fields may end before it. -/
structure Field where
  key : String
  kind : FieldKind
  mayBeCut : Bool := false
  deriving DecidableEq, Repr

/-- The members of a record that belong to a shape, by key. -/
abbrev Members := List (String × FieldValue)

/-- A shape of records: the fields, and the value that members stand for if none is lacking. -/
structure Shape (α : Type) where
  fields : List Field
  build? : Members → Option α

namespace Reader

/-- Why a value is refused where none of its type is wanted.  Texts and numbers are read first, and
lists and records are not looked into. -/
def refusal : List Token → ReadError
  | .text raw :: _ => if (Token.unescape? raw).isSome then .mismatch else .malformed
  | .number n :: _ => if n.tooLarge then .malformed else .mismatch
  | .null :: _ | .bool _ :: _ | .openList :: _ | .openRecord :: _ => .mismatch
  | _ => .malformed

def text : List Token → Except ReadError (String × List Token)
  | .text raw :: rest =>
    match Token.unescape? raw with
    | some s => .ok (s, rest)
    | none => .error .malformed
  | ts => .error (refusal ts)

/-- Reads an unsigned number of 32 bits. -/
def word32 : List Token → Except ReadError (UInt32 × List Token)
  | .number n :: rest =>
    match n.word64? with
    | some value =>
      if value < UInt32.size then .ok (UInt32.ofNat value, rest) else .error .mismatch
    | none => .error (refusal (.number n :: rest))
  | ts => .error (refusal ts)

/-- Reads texts up to the end of their list, with those before in reverse. -/
def items (acc : List String) : List Token → Except ReadError (List String × List Token)
  | .text raw :: rest =>
    match Token.unescape? raw with
    | none => .error .malformed
    | some s =>
      match rest with
      | .comma :: rest => items (s :: acc) rest
      | .closeList :: rest => .ok ((s :: acc).reverse, rest)
      | _ => .error .malformed
  | ts => .error (refusal ts)

def texts : List Token → Except ReadError (List String × List Token)
  | .openList :: .closeList :: rest => .ok ([], rest)
  | .openList :: rest => items [] rest
  | ts => .error (refusal ts)

def value (kind : FieldKind) (ts : List Token) : Except ReadError (FieldValue × List Token) :=
  match kind, ts with
  | .text, ts => (text ts).map fun (s, rest) => (.text s, rest)
  | .word32, ts => (word32 ts).map fun (n, rest) => (.number n, rest)
  | .textOrNull, .null :: rest | .textsOrNull, .null :: rest => .ok (.null, rest)
  | .textOrNull, ts => (text ts).map fun (s, rest) => (.text s, rest)
  | .textsOrNull, ts => (texts ts).map fun (ss, rest) => (.texts ss, rest)

/-- Takes the colon after a key away. -/
def colon : List Token → Except ReadError (List Token)
  | .colon :: rest => .ok rest
  | _ => .error .malformed

/-- Reads what a key and its colon stand before: the value of a field, or anything. -/
def member (fields : List Field) (seen : Members) (key : String) (ts : List Token) :
    Except ReadError (Members × List Token) :=
  match fields.find? (·.key == key) with
  | some field =>
    if seen.any (·.1 == key) then .error .mismatch
    else do
      let (v, rest) ← value field.kind (← colon ts)
      return ((key, v) :: seen, rest)
  | none => do
    match skip? (← colon ts) with
    | some rest => return (seen, rest)
    | none => throw .malformed

/-- Reads members up to the end of their record.  A member takes up several tokens, so as much fuel
as there are tokens is enough. -/
def members (fields : List Field) : (fuel : Nat) → (seen : Members) → List Token →
    Except ReadError (Members × List Token)
  | fuel + 1, seen, .text raw :: rest =>
    match Token.unescape? raw with
    | none => .error .malformed
    | some key =>
      match member fields seen key rest with
      | .error e => .error e
      | .ok (seen, .comma :: rest) => members fields fuel seen rest
      | .ok (seen, .closeRecord :: rest) => .ok (seen, rest)
      | .ok _ => .error .malformed
  | _, _, _ => .error .malformed

/-- Reads the fields in order up to the end of their list. -/
def elements : (isFirst : Bool) → List Field → List Token →
    Except ReadError (Members × List Token)
  | _, [], .closeList :: rest => .ok ([], rest)
  | _, [], _ => .error .malformed
  | _, field :: fields, .closeList :: rest =>
    if (field :: fields).all (·.mayBeCut) then .ok ([], rest) else .error .mismatch
  | isFirst, field :: fields, ts => do
    let ts ← match isFirst, ts with
      | true, ts => pure ts
      | false, .comma :: ts => pure ts
      | false, _ => throw .malformed
    let (v, rest) ← value field.kind ts
    let (more, rest) ← elements false fields rest
    return ((field.key, v) :: more, rest)

/-- Reads a record in either of its forms. -/
def record (fields : List Field) : List Token → Except ReadError (Members × List Token)
  | .openRecord :: .closeRecord :: rest => .ok ([], rest)
  | .openRecord :: rest => members fields rest.length [] rest
  | .openList :: rest => elements true fields rest
  | ts => .error (refusal ts)

end Reader

/-- Reads a whole text as a value of a shape. -/
def Shape.read {α : Type} (shape : Shape α) (bytes : List UInt8) : Except ReadError α := do
  let (members, rest) ← Reader.record shape.fields (Token.tokens bytes)
  match shape.build? members with
  | none => throw .mismatch
  | some a => if rest.isEmpty then return a else throw .malformed

/-- Reads a whole text as a list of texts. -/
def texts? (s : String) : Option (List String) :=
  match Reader.texts (Token.tokens (Text.Utf8.encode s)) with
  | .ok (items, []) => some items
  | _ => none

end Gatehouse.Json
