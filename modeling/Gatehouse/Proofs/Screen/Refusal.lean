import Gatehouse.Proofs.Screen.Guard
import Gatehouse.Proofs.Web.Form
import Gatehouse.Service.Message

/-! What a request with a suspicious parameter is refused with.  However the query is spelled, its
values are looked at as they are meant; the refusal names the first suspicious parameter, and
nothing else of the request makes a difference to it. -/

namespace Gatehouse.Screen

open Service Text Web

/-- The query says these pairs.  It may be left out if there are none. -/
def Says (pairs : List (String × String)) : Option (List UInt8) → Prop
  | some written => Form.Query pairs written
  | none => pairs = []

theorem queryPairs_of_says {pairs : List (String × String)} {query : Option (List UInt8)}
    (h : Says pairs query) : queryPairs query = pairs := by
  cases query with
  | some written => exact Form.decode_of_query h
  | none => exact h.symm

/-- The first suspicious one among the parameters, in their order, and those before it. -/
structure IsFirstSuspect (params before : List (ParameterPlace × String × String))
    (place : ParameterPlace) (key value : String) : Prop where
  position : before ++ [(place, key, value)] <+: params
  harmless : ∀ p ∈ before, classify p.2.2 = none
  suspicious : classify value ≠ none

theorem exists_isFirstSuspect_iff {params : List (ParameterPlace × String × String)}
    {place : ParameterPlace} {key value : String} :
    (∃ before, IsFirstSuspect params before place key value) ↔
      params.find? (fun p => (classify p.2.2).isSome) = some (place, key, value) := by
  rw [List.find?_eq_some_iff_append]
  constructor
  · rintro ⟨before, ⟨after, hParams⟩, hHarmless, hSuspicious⟩
    refine ⟨Option.isSome_iff_ne_none.mpr hSuspicious, before, after, ?_, fun p hp => ?_⟩
    · rw [← hParams, List.append_assoc, List.singleton_append]
    · rw [hHarmless p hp]
      rfl
  · rintro ⟨hSuspicious, before, after, rfl, hHarmless⟩
    refine ⟨before, ⟨after, ?_⟩, fun p hp => ?_, Option.isSome_iff_ne_none.mp hSuspicious⟩
    · rw [List.append_assoc, List.singleton_append]
    · simpa using hHarmless p hp

/-- The guard fails with the place and the key of the first suspicious value. -/
theorem inspect_error_iff {query : Option (List UInt8)} {path : List (String × String)}
    {e : ApiError} :
    inspect query path = .error e ↔
      ∃ before place key value, IsFirstSuspect (placed (queryPairs query) path) before place key
        value ∧ e = .invalidInput place key := by
  rw [inspect_eq]
  constructor
  · intro h
    split at h
    · rename_i place key value hFind
      obtain ⟨before, hFirst⟩ := exists_isFirstSuspect_iff.mpr hFind
      exact ⟨before, place, key, value, hFirst, (Except.error.inj h).symm⟩
    · cases h
  · rintro ⟨before, place, key, value, hFirst, rfl⟩
    rw [exists_isFirstSuspect_iff.mp ⟨before, hFirst⟩]

theorem exists_inspect_error_iff {query : Option (List UInt8)} {path : List (String × String)} :
    (∃ e, inspect query path = .error e) ↔
      ∃ p ∈ queryPairs query ++ path, classify p.2 ≠ none := by
  have hOk : (∃ e, inspect query path = .error e) ↔ ¬inspect query path = .ok () := by
    cases inspect query path <;> simp
  rw [hOk, inspect_ok_iff, ← List.forall_mem_append]
  push Not
  rfl

/-- The response to a request with a suspicious parameter at a place and under a key. -/
def refusal (place : ParameterPlace) (key : String) : Response :=
  .json 400 (.record [("error", .record [("code", .text "INVALID_INPUT"),
    ("message", .text s!"invalid input detected in {place.name} parameter: {key}")])])

/-- However a query is spelled, the guard fails if there is a suspicious value in it or in the path.
The response names the place and the key of the first one, and is the same for all parameters whose
first suspicious value stands there: it depends neither on the value nor on anything else. -/
theorem inspect_names_first_suspect {pairs : List (String × String)} {query : Option (List UInt8)}
    (hSays : Says pairs query) (path : List (String × String)) :
    ((∃ e, inspect query path = .error e) ↔ ∃ p ∈ pairs ++ path, classify p.2 ≠ none) ∧
      (∀ e, inspect query path = .error e → ∃ before place key value,
        IsFirstSuspect (placed pairs path) before place key value) ∧
      ∀ before place key value, IsFirstSuspect (placed pairs path) before place key value →
        inspect query path = .error (.invalidInput place key) ∧
        Response.ofError (.invalidInput place key) = refusal place key ∧
        ∀ pairs' query' path' before' value', Says pairs' query' →
          IsFirstSuspect (placed pairs' path') before' place key value' →
            inspect query' path' = inspect query path := by
  obtain rfl := queryPairs_of_says hSays
  refine ⟨exists_inspect_error_iff, fun e hError => ?_, fun before place key value hFirst => ?_⟩
  · obtain ⟨before, place, key, value, hFirst, -⟩ := inspect_error_iff.mp hError
    exact ⟨before, place, key, value, hFirst⟩
  · have hError := inspect_error_iff.mpr ⟨before, place, key, value, hFirst, rfl⟩
    refine ⟨hError, rfl, fun pairs' query' path' before' value' hSays' hFirst' => ?_⟩
    obtain rfl := queryPairs_of_says hSays'
    rw [hError, inspect_error_iff.mpr ⟨before', place, key, value', hFirst', rfl⟩]

theorem says_escaped_dashes :
    Says [("a", "1"), ("q", "--")] (some (Utf8.encode "a=1&&q=%2d-")) := by
  have hEscaped : Form.Field Form.valueReserved (Utf8.encode "--") (Utf8.encode "%2d-") := by
    show Form.Field _ [0x2D, 0x2D] [0x25, 0x32, 0x64, 0x2D]
    exact .escape rfl rfl rfl (.of_plain rfl)
  have hQ : Form.Pair ("q", "--") (Utf8.encode "q=%2d-") := .full (.of_plain rfl) hEscaped
  have hA : Form.Pair ("a", "1") (Utf8.encode "a=1") :=
    .full (.of_plain rfl) (.of_plain rfl)
  exact Form.Query.pair hA (.ampersand (.last hQ))

theorem says_quotes :
    Says [("a", "1"), ("q", "''"), ("a", "")] (some (Utf8.encode "&a=1&q=''&a")) := by
  have hA : Form.Pair ("a", "1") (Utf8.encode "a=1") :=
    .full (.of_plain rfl) (.of_plain rfl)
  have hQ : Form.Pair ("q", "''") (Utf8.encode "q=''") :=
    .full (.of_plain rfl) (.of_plain rfl)
  have hBare : Form.Pair ("a", "") (Utf8.encode "a") := .bare (.of_plain rfl) nofun
  exact Form.Query.ampersand (.pair hA (.pair hQ (.last hBare)))

theorem isFirstSuspect_q {value : String} (h : classify value ≠ none)
    (rest : List (String × String)) :
    IsFirstSuspect (placed (("a", "1") :: ("q", value) :: rest) []) [(.query, "a", "1")] .query "q"
      value := by
  refine ⟨⟨_, rfl⟩, fun p hp => ?_, h⟩
  obtain rfl := List.mem_singleton.mp hp
  decide

/-- Two queries in which the same parameter is the first suspicious one are refused alike. -/
theorem dashes_refused_like_quotes :
    inspect (some (Utf8.encode "a=1&&q=%2d-")) [] = .error (.invalidInput .query "q") ∧
      inspect (some (Utf8.encode "&a=1&q=''&a")) [] =
        inspect (some (Utf8.encode "a=1&&q=%2d-")) [] := by
  obtain ⟨-, -, hFirst⟩ := inspect_names_first_suspect says_escaped_dashes []
  obtain ⟨hError, -, hSame⟩ := hFirst _ _ _ _ (isFirstSuspect_q (by decide) [])
  exact ⟨hError, hSame _ _ _ _ _ says_quotes (isFirstSuspect_q (by decide) _)⟩

end Gatehouse.Screen
