import Gatehouse.Json.Token

/-! Passing over a JSON value.  `skip?` gives the tokens after the first value of a sequence, if it
begins with a well-formed one.  The lists and records that are still open form a stack, so values
may be nested to any depth. -/

namespace Gatehouse.Json.Skip

/-- An open list or record. -/
inductive Frame where
  | list
  | record
  deriving DecidableEq, Repr

/-- What may come next inside the innermost open frame. -/
inductive Expect where
  /-- A value. -/
  | value
  /-- A value, or the end of a list that is still empty. -/
  | firstItem
  /-- A key, or the end of a record that is still empty. -/
  | firstKey
  /-- A key. -/
  | key
  /-- The colon after a key. -/
  | colon
  /-- A comma, or the end of the innermost frame. -/
  | next
  deriving DecidableEq, Repr

/-- What a token leads to: what may come next in the frames that are then open. -/
def step (frames : List Frame) : Expect → Token → Option (Expect × List Frame)
  | .value, .openList | .firstItem, .openList => some (.firstItem, .list :: frames)
  | .value, .openRecord | .firstItem, .openRecord => some (.firstKey, .record :: frames)
  | .value, .null | .firstItem, .null => some (.next, frames)
  | .value, .bool _ | .firstItem, .bool _ => some (.next, frames)
  | .value, .number _ | .firstItem, .number _ => some (.next, frames)
  | .value, .text _ | .firstItem, .text _ => some (.next, frames)
  | .firstItem, .closeList => some (.next, frames.tail)
  | .firstKey, .closeRecord => some (.next, frames.tail)
  | .firstKey, .text _ | .key, .text _ => some (.colon, frames)
  | .colon, .colon => some (.value, frames)
  | .next, .comma =>
    match frames with
    | .list :: _ => some (.value, frames)
    | .record :: _ => some (.key, frames)
    | [] => none
  | .next, .closeList =>
    match frames with
    | .list :: outer => some (.next, outer)
    | _ => none
  | .next, .closeRecord =>
    match frames with
    | .record :: outer => some (.next, outer)
    | _ => none
  | _, _ => none

/-- Reads on until no frame is open and the value is complete. -/
def run : Expect → List Frame → List Token → Option (List Token)
  | .next, [], rest => some rest
  | _, _, [] => none
  | expect, frames, t :: rest =>
    match step frames expect t with
    | some (expect, frames) => run expect frames rest
    | none => none

end Skip

/-- The tokens after the first value. -/
def skip? (ts : List Token) : Option (List Token) := Skip.run .value [] ts

end Gatehouse.Json
