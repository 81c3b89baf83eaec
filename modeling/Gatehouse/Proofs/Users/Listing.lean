import Gatehouse.Proofs.Screen.Sanitize
import Gatehouse.Users.Listing

/-! What a listing runs with, in terms of the query that asks for it.  A key counts if it is given
once, and `Selection` says what becomes of the values under the three keys. -/

namespace Gatehouse.Users

open Text Screen

namespace ListQuery

variable {key : String} {pairs : List (String × String)}

theorem single_eq_some_iff {value : Option String} :
    single key pairs = some value ↔
      pairs.filter (·.1 == key) = (value.map (key, ·)).toList := by
  have hKey : ∀ pair ∈ pairs.filter (·.1 == key), pair.1 = key := fun pair hPair => by
    simpa using (List.mem_filter.mp hPair).2
  rw [single]
  generalize pairs.filter (·.1 == key) = found at hKey
  rcases found with _ | ⟨pair, _ | ⟨other, more⟩⟩
  · cases value <;> simp
  · have hFirst : pair.1 = key := hKey pair List.mem_cons_self
    cases value with
    | none => simp
    | some v => simp [Prod.ext_iff, hFirst]
  · cases value <;> simp

/-- The value of a key is what stands under it. -/
theorem mem_iff_of_single {value : Option String} (h : single key pairs = some value) (v : String) :
    (key, v) ∈ pairs ↔ value = some v := by
  have hMem : (key, v) ∈ pairs ↔ (key, v) ∈ pairs.filter (·.1 == key) := by simp
  rw [hMem, single_eq_some_iff.mp h]
  cases value with
  | none => simp
  | some w => simp [eq_comm]

theorem length_le_of_single {value : Option String} (h : single key pairs = some value) :
    (pairs.filter (·.1 == key)).length ≤ 1 := by
  rw [single_eq_some_iff.mp h]
  cases value <;> simp

theorem single_of_singleInt {n : Option Int} (h : singleInt key pairs = some n) :
    ∃ raw, single key pairs = some raw ∧ raw.map Decimal.int64? = n.map some := by
  rw [singleInt] at h
  split at h
  · cases h
  · rename_i hSingle
    cases h
    exact ⟨none, hSingle, rfl⟩
  · rename_i raw hSingle
    obtain ⟨m, hm, rfl⟩ := Option.map_eq_some_iff.mp h
    exact ⟨some raw, hSingle, congrArg some hm⟩

theorem ofPairs?_eq_some_iff {q : ListQuery} :
    ofPairs? pairs = some q ↔
      single "name" pairs = some q.name ∧ singleInt "limit" pairs = some q.limit ∧
        singleInt "offset" pairs = some q.offset := by
  simp only [ofPairs?, Option.bind_eq_bind, Option.bind_eq_some_iff]
  constructor
  · rintro ⟨name, hName, limit, hLimit, offset, hOffset, hq⟩
    cases hq
    exact ⟨hName, hLimit, hOffset⟩
  · rintro ⟨hName, hLimit, hOffset⟩
    exact ⟨_, hName, _, hLimit, _, hOffset, rfl⟩

theorem eq_none_of_singleInt {n : Option Int} (h : singleInt key pairs = some n)
    (hAbsent : ∀ raw, (key, raw) ∉ pairs) : n = none := by
  obtain ⟨raw, hSingle, hDenotes⟩ := single_of_singleInt h
  cases raw with
  | none => exact Option.map_eq_none_iff.mp hDenotes.symm
  | some raw => exact absurd ((mem_iff_of_single hSingle raw).mpr rfl) (hAbsent raw)

/-- A number under a key is what the text there denotes. -/
theorem denotes_of_singleInt {n : Option Int} {raw : String} (h : singleInt key pairs = some n)
    (hMem : (key, raw) ∈ pairs) : ∃ m, Decimal.int64? raw = some m ∧ n = some m := by
  obtain ⟨value, hSingle, hDenotes⟩ := single_of_singleInt h
  obtain rfl := (mem_iff_of_single hSingle raw).mp hMem
  cases n with
  | none => cases hDenotes
  | some m => exact ⟨m, Option.some.inj hDenotes, rfl⟩

/-- Of a harmless search term only the blank characters at its ends are left out. -/
theorem nameFilter_of_harmless {q : ListQuery} {value : String} (hName : q.name = some value)
    (hHarmless : classify value = none) :
    q.nameFilter = if isBlankText value then none else some (trim value) := by
  rw [nameFilter, hName, Option.map_some, sanitize_of_isClean (isClean_of_classify hHarmless)]
  by_cases hBlank : isBlankText value = true
  · rw [if_pos hBlank, trim_eq_empty_iff.mpr hBlank]
    rfl
  · have hSome : trim value ≠ "" := mt trim_eq_empty_iff.mp hBlank
    rw [if_neg hBlank, Option.filter_some_pos (by simpa using hSome)]

theorem effectiveLimit_of_given {q : ListQuery} {n : Int} (h : q.limit = some n) :
    q.effectiveLimit = if n < 1 then 1 else if 200 < n then 200 else n := by
  rw [effectiveLimit, h, maxLimit, Option.getD_some]
  split
  · omega
  · split <;> omega

theorem effectiveOffset_of_given {q : ListQuery} {n : Int} (h : q.offset = some n) :
    q.effectiveOffset = if n < 0 then 0 else n := by
  rw [effectiveOffset, h, Option.getD_some]
  split <;> omega

end ListQuery

/-- What a listing of users runs with, for the pairs of its query: the trimmed search term unless it
is blank, and the limit and the offset brought to the nearest number that is allowed. -/
structure Selection (pairs : List (String × String)) (name : Option String)
    (limit offset : Int) : Prop where
  once : ∀ key ∈ ["name", "limit", "offset"], (pairs.filter (·.1 == key)).length ≤ 1
  name_absent : (∀ value, ("name", value) ∉ pairs) → name = none
  name_given : ∀ value, ("name", value) ∈ pairs → sanitize value = trim value ∧
    name = if isBlankText value then none else some (trim value)
  name_clean : ∀ term, name = some term → term ≠ "" ∧ IsClean term
  limit_bounds : 1 ≤ limit ∧ limit ≤ 200
  limit_absent : (∀ raw, ("limit", raw) ∉ pairs) → limit = 50
  limit_given : ∀ raw, ("limit", raw) ∈ pairs → ∃ n, Decimal.int64? raw = some n ∧
    limit = if n < 1 then 1 else if 200 < n then 200 else n
  offset_absent : (∀ raw, ("offset", raw) ∉ pairs) → offset = 0
  offset_given : ∀ raw, ("offset", raw) ∈ pairs → ∃ n, Decimal.int64? raw = some n ∧
    offset = if n < 0 then 0 else n

theorem selection_of_ofPairs {pairs : List (String × String)} {q : ListQuery}
    (h : ListQuery.ofPairs? pairs = some q) (hHarmless : ∀ p ∈ pairs, classify p.2 = none) :
    Selection pairs q.nameFilter q.effectiveLimit q.effectiveOffset := by
  obtain ⟨hName, hLimit, hOffset⟩ := ListQuery.ofPairs?_eq_some_iff.mp h
  obtain ⟨limit, hLimitText, -⟩ := ListQuery.single_of_singleInt hLimit
  obtain ⟨offset, hOffsetText, -⟩ := ListQuery.single_of_singleInt hOffset
  have hTerm := ListQuery.mem_iff_of_single hName
  have hFilter : ∀ value, ("name", value) ∈ pairs →
      q.nameFilter = if isBlankText value then none else some (trim value) := fun value hMem =>
    ListQuery.nameFilter_of_harmless ((hTerm value).mp hMem) (hHarmless _ hMem)
  constructor
  case once =>
    simp only [List.forall_mem_cons, List.not_mem_nil, false_imp_iff, implies_true, and_true]
    exact ⟨ListQuery.length_le_of_single hName, ListQuery.length_le_of_single hLimitText,
      ListQuery.length_le_of_single hOffsetText⟩
  case name_absent =>
    intro hAbsent
    have hNone : q.name = none :=
      Option.eq_none_iff_forall_ne_some.mpr fun value => mt (hTerm value).mpr (hAbsent value)
    rw [ListQuery.nameFilter, hNone]
    rfl
  case name_given =>
    intro value hMem
    exact ⟨sanitize_of_isClean (isClean_of_classify (hHarmless _ hMem)), hFilter value hMem⟩
  case name_clean =>
    intro term hSome
    obtain ⟨value, hValue⟩ : ∃ value, q.name = some value := by
      cases hGiven : q.name with
      | none => rw [ListQuery.nameFilter, hGiven] at hSome; cases hSome
      | some value => exact ⟨value, rfl⟩
    have hMem := (hTerm value).mpr hValue
    rw [hFilter value hMem] at hSome
    split at hSome
    · cases hSome
    · rename_i hBlank
      cases hSome
      exact ⟨mt trim_eq_empty_iff.mp hBlank, (isClean_of_classify (hHarmless _ hMem)).trim⟩
  case limit_bounds =>
    rw [ListQuery.effectiveLimit, ListQuery.maxLimit]
    omega
  case limit_absent =>
    intro hAbsent
    rw [ListQuery.effectiveLimit, ListQuery.eq_none_of_singleInt hLimit hAbsent]
    rfl
  case limit_given =>
    intro raw hMem
    obtain ⟨n, hDenotes, hn⟩ := ListQuery.denotes_of_singleInt hLimit hMem
    exact ⟨n, hDenotes, ListQuery.effectiveLimit_of_given hn⟩
  case offset_absent =>
    intro hAbsent
    rw [ListQuery.effectiveOffset, ListQuery.eq_none_of_singleInt hOffset hAbsent]
    rfl
  case offset_given =>
    intro raw hMem
    obtain ⟨n, hDenotes, hn⟩ := ListQuery.denotes_of_singleInt hOffset hMem
    exact ⟨n, hDenotes, ListQuery.effectiveOffset_of_given hn⟩

end Gatehouse.Users
