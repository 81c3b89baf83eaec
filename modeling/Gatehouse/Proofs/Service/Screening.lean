import Gatehouse.Proofs.Screen.Signature
import Gatehouse.Proofs.Service.Handling
import Gatehouse.Proofs.Service.Routes

/-! What a suspicious value does to the request that carries it: outside of the probe for health it
is refused before anything else is looked at.  Keywords of SQL on one line are such a value; a line
break between them hides them. -/

namespace Gatehouse.Service

open Screen Text Web

/-- The value stands in the query of the request, or in a parameter of its path. -/
def Request.Carries (r : Request) (value : String) : Prop :=
  (∃ key, (key, value) ∈ queryPairs r.target.query) ∨
    ∃ route params key raw, findRoute r.target.path = some (route, params) ∧
      (key, raw) ∈ params ∧ Template.decodeParam? raw = some value

/-- The request is for the probe of the service, whose parameters nobody reads. -/
def Request.IsProbe (r : Request) : Prop := r.target.path = Utf8.encode "/health"

theorem not_isHarmless_of_carries {r : Request} {value : String} {route : Route}
    {params : List (String × List UInt8)} (hRoute : findRoute r.target.path = some (route, params))
    (hCarries : r.Carries value) (hSuspect : classify value ≠ none) :
    ¬IsHarmless r.target.query params := by
  rintro ⟨hQuery, decoded, hDecoded, hPath⟩
  obtain ⟨key, hMem⟩ | ⟨route', params', key, raw, hRoute', hMem, hValue⟩ := hCarries
  · exact hSuspect (hQuery _ hMem)
  · rw [hRoute] at hRoute'
    cases hRoute'
    have hRead : (key, value) ∈ decoded :=
      (mem_iff_of_mapM hDecoded _).mpr ⟨_, hMem, by rw [hValue]; rfl⟩
    exact hSuspect (hPath _ hRead)

theorem screen_error {query : Option (List UInt8)} {params : List (String × List UInt8)}
    {e : ApiError} (h : screen query params = .error e) :
    e.status = 400 ∧ e.code = "INVALID_INPUT" := by
  rw [screen] at h
  split at h
  · cases h
    exact ⟨rfl, rfl⟩
  · rw [inspect] at h
    split at h
    · cases h
      exact ⟨rfl, rfl⟩
    · split at h
      · cases h
        exact ⟨rfl, rfl⟩
      · cases h

theorem template_of_not_isScreened : ∀ route ∈ routes, route.group.isScreened = false →
    route.template = [literal "/health"] := by decide

/-- The service has decided on the request by itself: there is no route for it, or its input is
refused. -/
def Request.IsTurnedAway (settings : Settings) (r : Request) : Prop :=
  plan settings r = .answer (.ofStatus 404) ∨
    ∃ e : ApiError, e.status = 400 ∧ e.code = "INVALID_INPUT" ∧ plan settings r = .answer (.ofError e)

/-- A suspicious value keeps a request from every operation but the probe. -/
theorem isTurnedAway_of_carries (settings : Settings) {r : Request} {value : String}
    (hCarries : r.Carries value) (hSuspect : classify value ≠ none) (hProbe : ¬r.IsProbe) :
    r.IsTurnedAway settings := by
  cases hFind : findRoute r.target.path with
  | none =>
    left
    rw [plan, hFind]
  | some found =>
    obtain ⟨route, params⟩ := found
    obtain ⟨hMem, hParams⟩ := findRoute_eq_some hFind
    have hScreened : route.group.isScreened = true := by
      by_contra hOpen
      have hTemplate := template_of_not_isScreened route hMem (Bool.not_eq_true _ ▸ hOpen)
      rw [Route.params?, hTemplate] at hParams
      exact hProbe (eq_of_literal_template hParams)
    cases hScreen : screen r.target.query params with
    | ok u =>
      exact absurd (screen_ok_iff.mp hScreen) (not_isHarmless_of_carries hFind hCarries hSuspect)
    | error e =>
      obtain ⟨hStatus, hCode⟩ := screen_error hScreen
      have hPass : route.pass settings.gatewayPolicy params r = .error e := by
        rw [Route.pass, hScreened, if_pos rfl, hScreen]
        rfl
      refine .inr ⟨e, hStatus, hCode, ?_⟩
      simp only [plan, hFind, hPass]

theorem Request.IsTurnedAway.handle {f : Facilities} {r : Request}
    (h : r.IsTurnedAway f.settings) (newId : String) :
    ∃ response, handle f newId r = .done response := by
  have hPlan : ∃ response, plan f.settings r = .answer response := by
    obtain hNone | ⟨e, -, -, hRefused⟩ := h
    · exact ⟨_, hNone⟩
    · exact ⟨_, hRefused⟩
  obtain ⟨planned, hPlan⟩ := hPlan
  obtain ⟨response, hDone, -⟩ | hHandle := handle_cases f newId r
  · exact ⟨response, hDone⟩
  · rw [hPlan] at hHandle
    exact ⟨_, hHandle⟩

/-- Two keywords of SQL make a text suspicious, whatever stands around and between them on their
line, and the service does nothing for a request that carries it. -/
theorem keywords_turned_away {pair : String × String} (hPair : pair ∈ keywordPairs)
    {between : List Char} {value : String}
    (hKeywords : Pattern.HasKeywords pair.1 pair.2 between value.toList)
    (hLine : '\n' ∉ between) :
    classify value = some .sqlInjection ∧
      ∀ (f : Facilities) (newId : String) (r : Request), r.Carries value → ¬r.IsProbe →
        r.IsTurnedAway f.settings ∧ ∃ response, handle f newId r = .done response := by
  have hSql := classify_of_keywords hPair hKeywords hLine
  refine ⟨hSql, fun f newId r hCarries hProbe => ?_⟩
  have hSuspect : classify value ≠ none := by
    rw [hSql]
    exact nofun
  have hAway := isTurnedAway_of_carries f.settings hCarries hSuspect hProbe
  exact ⟨hAway, hAway.handle newId⟩

/-- An administrator looks for users by this name. -/
def searchFor (name : String) : Request :=
  ⟨"GET", ⟨Utf8.encode "/api/v1/admin/users", some (Utf8.encode ("name=" ++ name))⟩,
    [Response.header "x-user-id" "1", Response.header "x-user-role" "admin"], [], none, ""⟩

theorem select_from_turned_away :
    (searchFor "a;+SeLeCt+1+FROM(users)").Carries "a; SeLeCt 1 FROM(users)" ∧
      (searchFor "a;+SeLeCt+1+FROM(users)").IsTurnedAway cachedSettings := by
  have hPair : ("select", "from") ∈ keywordPairs := by decide
  have hKeywords : Pattern.HasKeywords "select" "from" " 1 ".toList
      "a; SeLeCt 1 FROM(users)".toList :=
    ⟨"a; ".toList, "SeLeCt".toList, "FROM".toList, "(users)".toList, by decide,
      ⟨by decide, by decide, by decide⟩, ⟨by decide, by decide, by decide⟩⟩
  have hCarries : (searchFor "a;+SeLeCt+1+FROM(users)").Carries "a; SeLeCt 1 FROM(users)" :=
    .inl ⟨"name", List.mem_singleton.mpr rfl⟩
  have hProbe : ¬(searchFor "a;+SeLeCt+1+FROM(users)").IsProbe := by
    unfold Request.IsProbe
    decide
  obtain ⟨-, hAway⟩ := keywords_turned_away hPair hKeywords (by decide)
  exact ⟨hCarries, (hAway ⟨cachedSettings, true, ⟨0, 1, "a", "r"⟩⟩ "id" _ hCarries hProbe).1⟩

/-- With a line break between them the keywords are not found, and the request becomes a task. -/
theorem line_break_hides_keywords :
    ("union", "select") ∈ keywordPairs ∧
      Pattern.HasKeywords "union" "select" ['\n'] "UNION\nSELECT".toList ∧
      classify "UNION\nSELECT" = none ∧
      (searchFor "UNION%0ASELECT").Carries "UNION\nSELECT" ∧
      plan cachedSettings (searchFor "UNION%0ASELECT") =
        .task (.listUsers (some "UNION\nSELECT") 50 0) := by
  refine ⟨by decide, ?_, rfl, .inl ⟨"name", List.mem_singleton.mpr rfl⟩, rfl⟩
  exact ⟨[], "UNION".toList, "SELECT".toList, [], by decide,
    ⟨by decide, by decide, by decide⟩, ⟨by decide, by decide, by decide⟩⟩

end Gatehouse.Service
