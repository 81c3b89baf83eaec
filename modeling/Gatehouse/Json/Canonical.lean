import Gatehouse.Json.Basic

/-! The canonical form of a JSON value, in which the members of every record stand in the order of
their keys. -/

namespace Gatehouse.Json

mutual

/-- A value with the members of its records in the order of their keys. -/
def canonical : Json → Json
  | .list items => .list (canonicalItems items)
  | .record members => .record ((canonicalMembers members).mergeSort (fun a b => a.1 ≤ b.1))
  | j => j

/-- The items in their canonical forms. -/
def canonicalItems : List Json → List Json
  | [] => []
  | item :: items => canonical item :: canonicalItems items

/-- The members with their values in canonical form. -/
def canonicalMembers : List (String × Json) → List (String × Json)
  | [] => []
  | (key, value) :: members => (key, canonical value) :: canonicalMembers members

end

end Gatehouse.Json
