import Gatehouse.Proofs.Except
import Gatehouse.Screen.Guard

/-! What the guard over the parameters of a request lets through: `classify` finds nothing in any
value of the query or the path.  Otherwise the first value in which it finds something is refused,
by its place and its key. -/

namespace Gatehouse.Screen

theorem firstSuspect_eq_none_iff {params : List (String × String)} :
    firstSuspect params = none ↔ ∀ p ∈ params, classify p.2 = none := by
  simp [firstSuspect]

/-- The pairs of a query string, if there is one. -/
def queryPairs (query : Option (List UInt8)) : List (String × String) :=
  (query.map Web.Form.decode).getD []

theorem inspect_ok_iff {query : Option (List UInt8)} {path : List (String × String)} {u : Unit} :
    inspect query path = .ok u ↔
      (∀ p ∈ queryPairs query, classify p.2 = none) ∧ ∀ p ∈ path, classify p.2 = none := by
  rw [← firstSuspect_eq_none_iff, ← firstSuspect_eq_none_iff, inspect, queryPairs]
  cases firstSuspect ((query.map Web.Form.decode).getD []) with
  | some key => simp
  | none => cases firstSuspect path <;> simp

/-- The parameters with the place of each, in the order in which they are looked at. -/
def placed (query path : List (String × String)) : List (ParameterPlace × String × String) :=
  query.map (ParameterPlace.query, ·) ++ path.map (ParameterPlace.path, ·)

theorem inspect_eq (query : Option (List UInt8)) (path : List (String × String)) :
    inspect query path =
      match (placed (queryPairs query) path).find? fun p => (classify p.2.2).isSome with
      | some (place, key, _) => .error (.invalidInput place key)
      | none => .ok () := by
  have hFind (place : ParameterPlace) (params : List (String × String)) :
      ((params.map (place, ·)).find? fun p => (classify p.2.2).isSome) =
        (params.find? fun p => (classify p.2).isSome).map (place, ·) := List.find?_map ..
  rw [placed, List.find?_append, hFind, hFind, inspect, ← queryPairs, firstSuspect, firstSuspect]
  cases (queryPairs query).find? fun p => (classify p.2).isSome with
  | some p => rfl
  | none => cases path.find? fun p => (classify p.2).isSome <;> rfl

end Gatehouse.Screen
