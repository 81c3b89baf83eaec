import Gatehouse.Json.Basic
import Gatehouse.Json.Token

/-! Reading JSON values.  `parse?` reads a whole text as a value; a number must be an integer in
plain digits.  Members keep their order, and a key may come more than once. -/

namespace Gatehouse.Json

/-- The value of a number without fraction and exponent. -/
def Numeral.integer? (n : Numeral) : Option Int :=
  if !n.fraction.isEmpty || n.exponent.isSome then none
  else
    let size := n.whole.foldl (fun value b => 10 * value + digitValue b) 0
    some (if n.negative then -(size : Int) else size)

namespace Parser

mutual

def value : (fuel : Nat) → List Token → Option (Json × List Token)
  | 0, _ => none
  | fuel + 1, ts =>
    match ts with
    | .null :: rest => some (.null, rest)
    | .bool b :: rest => some (.bool b, rest)
    | .number n :: rest => n.integer?.map fun n => (.int n, rest)
    | .text raw :: rest => (Token.unescape? raw).map fun s => (.text s, rest)
    | .openList :: .closeList :: rest => some (.list [], rest)
    | .openList :: rest => items fuel [] rest
    | .openRecord :: .closeRecord :: rest => some (.record [], rest)
    | .openRecord :: rest => members fuel [] rest
    | _ => none

/-- Reads items up to the end of their list, with those before in reverse. -/
def items : (fuel : Nat) → List Json → List Token → Option (Json × List Token)
  | 0, _, _ => none
  | fuel + 1, acc, ts =>
    match value fuel ts with
    | some (item, .comma :: rest) => items fuel (item :: acc) rest
    | some (item, .closeList :: rest) => some (.list (item :: acc).reverse, rest)
    | _ => none

/-- Reads members up to the end of their record, with those before in reverse. -/
def members : (fuel : Nat) → List (String × Json) → List Token → Option (Json × List Token)
  | 0, _, _ => none
  | fuel + 1, acc, ts =>
    match ts with
    | .text raw :: .colon :: rest =>
      match Token.unescape? raw, value fuel rest with
      | some key, some (item, .comma :: rest) => members fuel ((key, item) :: acc) rest
      | some key, some (item, .closeRecord :: rest) =>
        some (.record ((key, item) :: acc).reverse, rest)
      | _, _ => none
    | _ => none

end

end Parser

/-- Reads a whole text as a value.  Every call uses up a token or is followed by one that does, so
twice as much fuel as there are tokens is enough. -/
def parse? (bytes : List UInt8) : Option Json :=
  let ts := Token.tokens bytes
  match Parser.value (2 * ts.length + 1) ts with
  | some (j, []) => some j
  | _ => none

/-- The first member of a record with a key. -/
def member? (key : String) : Json → Option Json
  | .record members => members.lookup key
  | _ => none

end Gatehouse.Json
