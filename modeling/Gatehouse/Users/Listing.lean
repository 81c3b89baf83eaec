import Gatehouse.Screen.Sanitize
import Gatehouse.Text.Decimal
import Gatehouse.Web.Form

/-! The query of a user listing: a search term for names and the part of the list that is asked
for.  A key that is given twice and a number that cannot be read make the query unreadable; other
keys count for nothing. -/

namespace Gatehouse.Users

open Text

/-- The query of a listing as it was given. -/
structure ListQuery where
  name : Option String
  limit : Option Int
  offset : Option Int
  deriving DecidableEq, Repr

namespace ListQuery

/-- How many users are listed if the query does not say. -/
def defaultLimit : Int := 50

/-- The most users that are listed at once. -/
def maxLimit : Int := 200

/-- The value of a key that may be given once: `none` if it is given more often. -/
def single (key : String) (pairs : List (String × String)) : Option (Option String) :=
  match pairs.filter (·.1 == key) with
  | [] => some none
  | [pair] => some (some pair.2)
  | _ => none

/-- The number under a key that may be given once: `none` if it cannot be read. -/
def singleInt (key : String) (pairs : List (String × String)) : Option (Option Int) :=
  match single key pairs with
  | none => none
  | some none => some none
  | some (some raw) => (Decimal.int64? raw).map some

def ofPairs? (pairs : List (String × String)) : Option ListQuery := do
  return ⟨← single "name" pairs, ← singleInt "limit" pairs, ← singleInt "offset" pairs⟩

/-- Reads a query in the form encoding; without one nothing is given. -/
def parse? (query : Option (List UInt8)) : Option ListQuery :=
  ofPairs? (Web.Form.decode (query.getD []))

/-- How many users to list, between 1 and `maxLimit`. -/
def effectiveLimit (q : ListQuery) : Int := max 1 (min maxLimit (q.limit.getD defaultLimit))

/-- How many users to leave out, not less than 0. -/
def effectiveOffset (q : ListQuery) : Int := max 0 (q.offset.getD 0)

/-- The search term after cleaning, unless nothing is left of it. -/
def nameFilter (q : ListQuery) : Option String :=
  (q.name.map Screen.sanitize).filter (!·.isEmpty)

end ListQuery

end Gatehouse.Users
