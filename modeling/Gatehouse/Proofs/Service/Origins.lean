import Gatehouse.Proofs.Service.ResponseHeaders
import Gatehouse.Proofs.TrustedProxies

/-! From the text that lists the origins to the one origin that a response admits.  In production it
is the origin of the request, if that is listed octet for octet.  Requests in advance ask nobody. -/

namespace Gatehouse

open Text Web

/-- The origin is an item of the list, less the blanks around it, and can be the value of a
header. -/
def Settings.ListsOrigin (raw : Option String) (origin : List UInt8) : Prop :=
  ∃ item ∈ listed raw, isBlankText item = false ∧ Utf8.encode (trim item) = origin ∧
    ∀ b ∈ origin, isValueOctet b = true

instance (raw : Option String) (origin : List UInt8) :
    Decidable (Settings.ListsOrigin raw origin) :=
  decidable_of_iff (∃ item ∈ Settings.listed raw, isBlankText item = false ∧
      Utf8.encode (trim item) = origin ∧ origin.all isValueOctet = true) <| by
    simp only [Settings.ListsOrigin, List.all_eq_true]

namespace Service

open Settings

/-! ### The origin that is admitted -/

variable {get : String → Option String} {settings : Settings} {headers : Headers}
  {origin : List UInt8}

theorem mem_legalOrigins_iff (h : Loads get settings) :
    origin ∈ Cors.legalOrigins settings ↔ ListsOrigin (get "CORS_ALLOWED_ORIGINS") origin := by
  simp only [Cors.legalOrigins, ListsOrigin, h.corsOrigins, List.mem_filter, List.mem_map,
    mem_entries_iff, List.all_eq_true]
  constructor
  · rintro ⟨⟨_, ⟨item, hMem, hBlank, rfl⟩, rfl⟩, hLegal⟩
    exact ⟨item, hMem, hBlank, rfl, hLegal⟩
  · rintro ⟨item, hMem, hBlank, rfl, hLegal⟩
    exact ⟨⟨_, ⟨item, hMem, hBlank, rfl⟩, rfl⟩, hLegal⟩

theorem admittedOrigin_eq_some_iff (h : Loads get settings)
    (hProduction : settings.environment = .production) :
    Cors.admittedOrigin settings headers = some origin ↔
      headers.first? "origin" = some origin ∧
        ListsOrigin (get "CORS_ALLOWED_ORIGINS") origin := by
  simp only [Cors.admittedOrigin, hProduction, Option.filter_eq_some_iff, List.contains_iff_mem,
    mem_legalOrigins_iff h]

theorem valuesOf_originHeaders (settings : Settings) (headers : Headers) :
    (Cors.originHeaders settings headers).valuesOf "access-control-allow-origin" =
      (Cors.admittedOrigin settings headers).toList := by
  have hSame : sameUpToCase "access-control-allow-origin" "access-control-allow-origin" = true := by
    decide
  rw [Cors.originHeaders]
  split
  · rename_i origin hOrigin
    rw [hOrigin, Headers.valuesOf_cons_same hSame, Headers.valuesOf_nil, Option.toList_some]
  · rename_i hNone
    rw [hNone, Headers.valuesOf_nil, Option.toList_none]

/-- No layer but the one for origins admits any. -/
theorem Response.Leaves.valuesOf_origin {r : Request} {inner : Response}
    (h : inner.Leaves settings r) :
    inner.headers.valuesOf "access-control-allow-origin" =
      if exceedsLimit settings r.headers then []
      else (Cors.admittedOrigin settings r.headers).toList := by
  cases h with
  | edge h =>
    rw [edgeAnswer]
    split
    · exact (named_ofFailure _).valuesOf_eq_nil (by decide)
    · have hRest : Headers.valuesOf (Cors.varyHeader :: Cors.preflightHeaders)
          "access-control-allow-origin" = [] := by decide
      rw [Cors.preflight, Headers.valuesOf_append, hRest, List.append_nil, valuesOf_originHeaders]
  | router h hNamed =>
    have hSecurity : securityHeaders.valuesOf "access-control-allow-origin" = [] := by decide
    have hVary : Headers.valuesOf [Cors.varyHeader] "access-control-allow-origin" = [] := by decide
    rw [h.within_limit, if_neg Bool.false_ne_true, valuesOf_decorate hNamed (by decide), hSecurity,
      hVary, valuesOf_originHeaders, List.nil_append, List.append_nil]

section Attend

variable {σ : Type} (respond : (q : Call) → σ → Option q.Answer × σ) (settings : Settings)
  (opened : Bool) (a : Arrival) (s : σ)

/-- The response comes from within the limit on bodies and in time, and its request names a listed
origin. -/
structure AdmitsOrigin (raw : Option String) (origin : List UInt8) : Prop where
  within_limit : exceedsLimit settings a.request.headers = false
  in_time : ¬TimesOut respond settings opened a s
  named : a.request.headers.first? "origin" = some origin
  listed : ListsOrigin raw origin

variable {settings}

/-- A response admits one origin at most. -/
theorem exists_valuesOf_origin (h : Loads get settings)
    (hProduction : settings.environment = .production) :
    ∃ admitted : Option (List UInt8),
      (attend respond settings opened a s).1.response.headers.valuesOf
          "access-control-allow-origin" = admitted.toList ∧
        ∀ origin, admitted = some origin ↔
          AdmitsOrigin respond settings opened a s (get "CORS_ALLOWED_ORIGINS") origin := by
  rcases attend_cases respond settings opened a s with ⟨hLate, hResponse⟩ |
    ⟨hInTime, inner, hLeaves, hResponse⟩
  · refine ⟨none, by rw [hResponse]; rfl, fun origin => iff_of_false nofun ?_⟩
    exact fun hAdmits => hAdmits.in_time hLate
  · rw [hResponse, valuesOf_close _ _ (by decide) (by decide), hLeaves.valuesOf_origin]
    split
    · rename_i hLimit
      refine ⟨none, rfl, fun origin => iff_of_false nofun fun hAdmits => ?_⟩
      rw [hAdmits.within_limit] at hLimit
      cases hLimit
    · rename_i hLimit
      refine ⟨_, rfl, fun origin => ?_⟩
      rw [admittedOrigin_eq_some_iff h hProduction]
      have hWithin := Bool.eq_false_of_not_eq_true hLimit
      exact ⟨fun ⟨hNamed, hListed⟩ => ⟨hWithin, hInTime, hNamed, hListed⟩,
        fun hAdmits => ⟨hAdmits.named, hAdmits.listed⟩⟩

variable {respond opened a s}

theorem valuesOf_credentials :
    (attend respond settings opened a s).1.response.headers.valuesOf
      "access-control-allow-credentials" = [] := by
  rcases attend_cases respond settings opened a s with ⟨-, hResponse⟩ |
    ⟨-, inner, hLeaves, hResponse⟩
  · rw [hResponse]
    rfl
  · rw [hResponse, valuesOf_close _ _ (by decide) (by decide)]
    exact hLeaves.named.valuesOf_eq_nil (by decide)

theorem edgeAnswer_status (settings : Settings) (r : Request) :
    (edgeAnswer settings r).status ∈ [200, 413] := by
  rw [edgeAnswer]
  split
  · exact List.mem_cons_of_mem _ List.mem_cons_self
  · exact List.mem_cons_self

variable (respond opened a s)

/-- In production a response admits the origin of its request if it is a listed one, and else none;
no response admits credentials.  A request in advance is answered before anybody is asked, whoever
the caller is. -/
theorem production_admits_listed (hLoad : Settings.load get = .ok settings)
    (hProduction : Environment.production.IsNamedBy (get "APP_ENV")) :
    (∀ origin, (attend respond settings opened a s).1.response.headers.valuesOf
          "access-control-allow-origin" = [origin] ↔
        AdmitsOrigin respond settings opened a s (get "CORS_ALLOWED_ORIGINS") origin) ∧
    ((attend respond settings opened a s).1.response.headers.valuesOf
          "access-control-allow-origin" ≠ [] ↔
        ∃ origin, AdmitsOrigin respond settings opened a s (get "CORS_ALLOWED_ORIGINS") origin) ∧
    (attend respond settings opened a s).1.response.headers.valuesOf
        "access-control-allow-credentials" = [] ∧
    (get "CORS_ALLOWED_ORIGINS" = none ∨
        (∀ item ∈ listed (get "CORS_ALLOWED_ORIGINS"), isBlankText item = true) →
      (attend respond settings opened a s).1.response.headers.valuesOf
        "access-control-allow-origin" = []) ∧
    (a.request.method = "OPTIONS" →
      (attend respond settings opened a s).1.calls = [] ∧
        (attend respond settings opened a s).1.response.status ∈ [200, 413] ∧
        ∀ {σ' : Type} (respond' : (q : Call) → σ' → Option q.Answer × σ') settings' opened' a' s',
          SameEdge settings settings' → a.SameButCaller a' →
            (attend respond' settings' opened' a' s').1.response =
              (attend respond settings opened a s).1.response) := by
  have hLoads := loads_of_load hLoad
  have hEnvironment : settings.environment = .production := by
    have hOwn := Environment.parse_ok_iff.mpr hLoads.environment
    rw [Environment.parse_ok_iff.mpr hProduction] at hOwn
    exact (Except.ok.inj hOwn).symm
  obtain ⟨admitted, hValues, hAdmits⟩ :=
    exists_valuesOf_origin respond opened a s hLoads hEnvironment
  have hSome : (attend respond settings opened a s).1.response.headers.valuesOf
      "access-control-allow-origin" ≠ [] ↔
        ∃ origin, AdmitsOrigin respond settings opened a s (get "CORS_ALLOWED_ORIGINS") origin := by
    simp only [hValues, ← hAdmits, ne_eq, Option.toList_eq_nil_iff, Option.ne_none_iff_exists']
  refine ⟨fun origin => ?_, hSome, valuesOf_credentials, fun hBlank => ?_, fun hOptions => ?_⟩
  · rw [hValues, Option.toList_eq_singleton_iff, hAdmits]
  · by_contra hAdmitted
    obtain ⟨origin, hOrigin⟩ := hSome.mp hAdmitted
    obtain ⟨item, hMem, hText, -⟩ := hOrigin.listed
    rcases hBlank with hUnset | hBlank
    · -- What is not given is read like the empty text, whose one item is blank.
      rw [hUnset] at hMem
      cases List.mem_singleton.mp hMem
      cases hText
    · rw [hBlank item hMem] at hText
      cases hText
  · have hEdge : ¬a.request.ReachesRouter settings := fun h => h.not_options hOptions
    refine ⟨?_, ?_, fun respond' _ _ _ s' hSettings hSame =>
      attend_congr_of_not_reaches respond respond' hSettings hSame hEdge _ _ s s'⟩
    · rw [attend_of_not_reaches respond opened s hEdge]
    · rw [attend_of_not_reaches respond opened s hEdge, close_status]
      exact edgeAnswer_status settings a.request

end Attend

/-- Production that lists one origin, and one that cannot be the value of a header. -/
def oneOrigin (key : String) : Option String :=
  if key = "DATABASE_URL" then some "db"
  else if key = "APP_ENV" then some "production"
  else if key = "JWT_SECRET" then some "s3cr3t"
  else if key = "CORS_ALLOWED_ORIGINS" then some " https://a.example ,, b\na"
  else none

/-- A request in advance, from an origin. -/
def inAdvance (origin : String) : Arrival where
  request :=
    ⟨"OPTIONS", ⟨Text.Utf8.encode "/api/v1/admin/users", none⟩, [Response.header "origin" origin],
      [], none, ""⟩
  stamp := ⟨0, 1, "a", "r"⟩
  newId := "id"

theorem one_origin_admitted :
    ∃ settings, Settings.load oneOrigin = .ok settings ∧
      (attend Backend.respond settings true (inAdvance "https://a.example")
        (.start [] (.ofEntries []))).1.response.headers.valuesOf "access-control-allow-origin" =
          [Utf8.encode "https://a.example"] ∧
      (attend Backend.respond settings true (inAdvance "https://A.example")
        (.start [] (.ofEntries []))).1.response.headers.valuesOf "access-control-allow-origin" =
          [] := by
  obtain ⟨settings, hLoad⟩ : ∃ settings, load oneOrigin = .ok settings := ⟨_, rfl⟩
  have hProduction : Environment.production.IsNamedBy (oneOrigin "APP_ENV") := by decide
  have hEdge (origin : String) : ¬(inAdvance origin).request.ReachesRouter settings :=
    fun h => h.not_options rfl
  refine ⟨settings, hLoad, ?_, ?_⟩
  · exact ((production_admits_listed Backend.respond true _ _ hLoad hProduction).1 _).mpr
      ⟨rfl, not_timesOut_of_not_reaches _ _ _ (hEdge _), rfl, by decide⟩
  · by_contra hAdmitted
    obtain ⟨origin, hAdmits⟩ :=
      (production_admits_listed Backend.respond true _ _ hLoad hProduction).2.1.mp hAdmitted
    have hOrigin : Utf8.encode "https://A.example" = origin := Option.some.inj hAdmits.named
    have hListed := hAdmits.listed
    rw [← hOrigin] at hListed
    exact absurd hListed (by decide)

end Service

end Gatehouse
