import Gatehouse.Proofs.Service.ErrorBodies
import Gatehouse.Proofs.Web.Header

/-! The headers of responses.  A response carries those of the layers that it has come through.  The
router adds the ones for security, so they are missing where a request does not get that far; the
identifier of the request is added outside of all that answers in time. -/

namespace Gatehouse.Service

open Identity Web

/-! ### The way of a response -/

/-- The request gets to the router: it does not promise too long a body, and it is no request in
advance of another. -/
structure Request.ReachesRouter (settings : Settings) (r : Request) : Prop where
  within_limit : exceedsLimit settings r.headers = false
  not_options : r.method ≠ "OPTIONS"

/-- The answer to a request that does not get to the router. -/
def edgeAnswer (settings : Settings) (r : Request) : Response :=
  if exceedsLimit settings r.headers then .ofFailure (.rejected .lengthLimitExceeded)
  else Cors.preflight settings r.headers

theorem handle_of_not_reaches {f : Facilities} {r : Request} (h : ¬r.ReachesRouter f.settings)
    (newId : String) : handle f newId r = .done (close newId r (edgeAnswer f.settings r)) := by
  by_cases hLimit : exceedsLimit f.settings r.headers = true
  · rw [handle_of_exceedsLimit f newId r hLimit, edgeAnswer, if_pos hLimit]
  · have hWithin := Bool.eq_false_of_not_eq_true hLimit
    have hOptions : r.method = "OPTIONS" := by
      by_contra hOther
      exact h ⟨hWithin, hOther⟩
    rw [edgeAnswer, if_neg hLimit]
    exact handle_of_options f newId r hWithin hOptions

theorem named_ofFailure (e : Failure) : (Response.ofFailure e).headers.Named ["content-type"] := by
  cases e <;> exact Headers.named_singleton _ _

theorem Response.IsAnswer.named {response : Response} (h : response.IsAnswer) :
    response.headers.Named ["content-type"] := by
  cases h with
  | given j h => exact Headers.named_singleton _ _
  | deleted => exact nofun
  | failed h => exact named_ofFailure (.api _)

/-- What is planned for a request is answered with no header but the one on the body. -/
theorem carryOut_ends_named (f : Facilities) (r : Request) :
    (carryOut f (plan f.settings r)).Ends fun response =>
      response.headers.Named ["content-type"] := by
  cases hPlan : plan f.settings r with
  | answer response =>
    rcases answer_of_plan hPlan with ⟨status, rfl⟩ | ⟨e, rfl⟩
    · exact nofun
    · exact named_ofFailure e
  | task task => exact (perform_ends f task).imp fun _ h => h.named

/-- A response on its way out, before the outermost layers: from the edge, or from the router. -/
inductive Response.Leaves (settings : Settings) (r : Request) : Response → Prop
  | edge (h : ¬r.ReachesRouter settings) : Leaves settings r (edgeAnswer settings r)
  | router (h : r.ReachesRouter settings) {response : Response}
      (hNamed : response.headers.Named ["content-type"]) :
      Leaves settings r
        (Cors.decorate settings r.headers (response.withHeaders securityHeaders))

theorem handle_ends (f : Facilities) (newId : String) (r : Request) :
    (handle f newId r).Ends fun response =>
      ∃ inner, inner.Leaves f.settings r ∧ response = close newId r inner := by
  by_cases h : r.ReachesRouter f.settings
  · rw [handle_eq f newId r h.within_limit h.not_options]
    exact (carryOut_ends_named f r).bind fun response hNamed => ⟨_, .router h hNamed, rfl⟩
  · rw [handle_of_not_reaches h]
    exact ⟨_, .edge h, rfl⟩

section Attend

variable {σ : Type} (respond : (q : Call) → σ → Option q.Answer × σ) (settings : Settings)
  (opened : Bool) (a : Arrival) (s : σ)

/-- A call that is made for the request is not answered, and so the time for it runs out. -/
def TimesOut : Prop := (handle ⟨settings, opened, a.stamp⟩ a.newId a.request).Hangs respond s

theorem attend_cases :
    TimesOut respond settings opened a s ∧
        (attend respond settings opened a s).1.response = timeout ∨
      ¬TimesOut respond settings opened a s ∧ ∃ inner, inner.Leaves settings a.request ∧
        (attend respond settings opened a s).1.response = close a.newId a.request inner := by
  rw [TimesOut, ← Dialogue.run_eq_none_iff]
  simp only [attend]
  cases hRun : ((handle ⟨settings, opened, a.stamp⟩ a.newId a.request).run respond s).1 with
  | none => exact .inl ⟨rfl, rfl⟩
  | some response => exact .inr ⟨Option.some_ne_none _, (handle_ends _ _ _).run respond hRun⟩

variable {settings a}

theorem attend_of_not_reaches (h : ¬a.request.ReachesRouter settings) :
    (attend respond settings opened a s).1 =
      ⟨a.request, close a.newId a.request (edgeAnswer settings a.request), []⟩ := by
  simp only [attend, handle_of_not_reaches (f := ⟨settings, opened, a.stamp⟩) h, Dialogue.run,
    Dialogue.asked, Option.getD_some]

theorem not_timesOut_of_not_reaches (h : ¬a.request.ReachesRouter settings) :
    ¬TimesOut respond settings opened a s := by
  rw [TimesOut, handle_of_not_reaches (f := ⟨settings, opened, a.stamp⟩) h,
    ← Dialogue.run_eq_none_iff]
  exact nofun

end Attend

/-! ### Headers by their names -/

/-- The names of the headers of a response from the edge, before the outermost layers. -/
def edgeNames : List String :=
  ["content-type", "access-control-allow-origin", "vary", "access-control-allow-methods",
    "access-control-allow-headers", "access-control-max-age"]

/-- The headers for security, with their values. -/
def protections : List (String × String) :=
  [("x-frame-options", "DENY"),
    ("content-security-policy", "default-src 'none'; frame-ancestors 'none'"),
    ("x-content-type-options", "nosniff"), ("referrer-policy", "no-referrer"),
    ("cache-control", "no-store")]

theorem edgeNames_ne_protection :
    ∀ h ∈ protections, ∀ other ∈ edgeNames, Text.sameUpToCase other h.1 = false := by
  decide

theorem named_originHeaders (settings : Settings) (headers : Headers) :
    (Cors.originHeaders settings headers).Named ["access-control-allow-origin"] := by
  rw [Cors.originHeaders]
  split
  · exact Headers.named_singleton _ _
  · exact nofun

theorem named_allowHeaders (r : Request) : (allowHeaders r).Named ["allow"] := by
  rw [allowHeaders]
  split
  · split
    · exact nofun
    · exact Headers.named_singleton _ _
  · exact nofun

theorem named_edgeAnswer (settings : Settings) (r : Request) :
    (edgeAnswer settings r).headers.Named edgeNames := by
  rw [edgeAnswer]
  split
  · exact (named_ofFailure _).mono (by decide)
  · exact Headers.named_append.mpr ⟨(named_originHeaders _ _).mono (by decide), by decide⟩

variable {settings : Settings} {r : Request} {inner : Response} {name : String}

theorem Response.Leaves.named (h : inner.Leaves settings r) :
    inner.headers.Named (edgeNames ++ protections.map Prod.fst) := by
  cases h with
  | edge h => exact (named_edgeAnswer settings r).mono fun _ => List.mem_append_left _
  | router h hNamed =>
    have hOrigin := named_originHeaders settings r.headers
    exact Headers.named_append.mpr ⟨Headers.named_append.mpr ⟨hNamed.mono (by decide), by decide⟩,
      Headers.named_append.mpr ⟨hOrigin.mono (by decide), by decide⟩⟩

theorem valuesOf_decorate {response : Response} (hNamed : response.headers.Named ["content-type"])
    (hName : Text.sameUpToCase "content-type" name = false) :
    (Cors.decorate settings r.headers (response.withHeaders securityHeaders)).headers.valuesOf name =
      securityHeaders.valuesOf name ++ ((Cors.originHeaders settings r.headers).valuesOf name ++
        Headers.valuesOf [Cors.varyHeader] name) := by
  have hInner : response.headers.valuesOf name = [] :=
    hNamed.valuesOf_eq_nil (List.forall_mem_singleton.mpr hName)
  simp only [Cors.decorate, Response.withHeaders, Headers.valuesOf_append, hInner, List.nil_append]

/-- Every response of the router carries each of the headers for security once. -/
theorem valuesOf_protection {h : String × String} (hMem : h ∈ protections) {response : Response}
    (hNamed : response.headers.Named ["content-type"]) :
    (Cors.decorate settings r.headers
      (response.withHeaders securityHeaders)).headers.valuesOf h.1 = [Text.Utf8.encode h.2] := by
  have hVary : ∀ h ∈ protections, Headers.valuesOf [Cors.varyHeader] h.1 = [] := by decide
  have hSecurity : ∀ h ∈ protections,
      securityHeaders.valuesOf h.1 = [Text.Utf8.encode h.2] := by decide
  have hOrigin := ((named_originHeaders settings r.headers).mono
    (by decide)).valuesOf_eq_nil (edgeNames_ne_protection h hMem)
  rw [valuesOf_decorate hNamed (edgeNames_ne_protection h hMem _ (by decide)), hSecurity h hMem,
    hOrigin, hVary h hMem, List.append_nil, List.append_nil]

@[simp] theorem close_headers (newId : String) (r : Request) (response : Response) :
    (close newId r response).headers =
      response.headers ++ (requestIdHeader, requestId newId r.headers) :: allowHeaders r := by
  rw [close]
  split <;> rfl

theorem valuesOf_close (newId : String) (response : Response)
    (hId : Text.sameUpToCase requestIdHeader name = false)
    (hAllow : Text.sameUpToCase "allow" name = false) :
    (close newId r response).headers.valuesOf name = response.headers.valuesOf name := by
  have hNone : (allowHeaders r).valuesOf name = [] :=
    (named_allowHeaders r).valuesOf_eq_nil (List.forall_mem_singleton.mpr hAllow)
  rw [close_headers, Headers.valuesOf_append, Headers.valuesOf_cons_other hId, hNone,
    List.append_nil]

theorem valuesOf_requestId (h : inner.Leaves settings r) (newId : String) :
    (close newId r inner).headers.valuesOf requestIdHeader = [requestId newId r.headers] := by
  have hSame : Text.sameUpToCase requestIdHeader requestIdHeader = true := by decide
  rw [close_headers, Headers.valuesOf_append, h.named.valuesOf_eq_nil (by decide),
    Headers.valuesOf_cons_same hSame, (named_allowHeaders r).valuesOf_eq_nil (by decide),
    List.nil_append]

theorem valuesOf_close_protection {h : String × String} (hMem : h ∈ protections) (newId : String)
    (response : Response) :
    (close newId r response).headers.valuesOf h.1 = response.headers.valuesOf h.1 := by
  have hNames : ∀ h ∈ protections, Text.sameUpToCase requestIdHeader h.1 = false ∧
      Text.sameUpToCase "allow" h.1 = false := by decide
  exact valuesOf_close newId response (hNames h hMem).1 (hNames h hMem).2

section Attend

variable {σ : Type} (respond : (q : Call) → σ → Option q.Answer × σ) (settings : Settings)
  (opened : Bool) (a : Arrival) (s : σ)

/-- A response that comes in time carries the identifier of its request, or a new one if it has
none.  One that is too late has no headers at all. -/
theorem request_id_returned :
    (¬TimesOut respond settings opened a s →
      (∀ id, a.request.headers.first? "x-request-id" = some id →
        (attend respond settings opened a s).1.response.headers.valuesOf "x-request-id" = [id]) ∧
      (a.request.headers.first? "x-request-id" = none →
        (attend respond settings opened a s).1.response.headers.valuesOf "x-request-id" =
          [Text.Utf8.encode a.newId])) ∧
    (TimesOut respond settings opened a s →
      (attend respond settings opened a s).1.response.status = 408 ∧
        (attend respond settings opened a s).1.response.headers = []) := by
  rcases attend_cases respond settings opened a s with ⟨hLate, hResponse⟩ |
    ⟨hInTime, inner, hLeaves, hResponse⟩
  · rw [hResponse]
    exact ⟨fun hInTime => absurd hLate hInTime, fun _ => ⟨rfl, rfl⟩⟩
  · have hValues := valuesOf_requestId hLeaves a.newId
    rw [hResponse]
    refine ⟨fun _ => ⟨fun id hId => hValues.trans ?_, fun hNone => hValues.trans ?_⟩,
      fun hLate => absurd hLate hInTime⟩
    · rw [requestId, requestIdHeader, hId, Option.getD_some]
    · rw [requestId, requestIdHeader, hNone, Option.getD_none]

end Attend

/-- User 7 asks for the own record, and gives the request an identifier. -/
def ownRecord : Arrival where
  request :=
    ⟨"GET", ⟨Text.Utf8.encode "/api/v1/users/me", none⟩,
      [Response.header "x-user-id" "7", Response.header "x-request-id" "r1"], [], none, ""⟩
  stamp := ⟨0, 1, "a", "r"⟩
  newId := "id"

theorem ownRecord_in_time :
    ¬TimesOut Backend.respond cachedSettings true ownRecord (.start [] (.ofEntries [])) := by
  rw [TimesOut, ← Dialogue.run_eq_none_iff]
  exact nofun

theorem identifier_returned :
    (attend Backend.respond cachedSettings true ownRecord
      (.start [] (.ofEntries []))).1.response.headers.valuesOf "x-request-id" =
        [Text.Utf8.encode "r1"] := by
  obtain ⟨hGiven, -⟩ :=
    (request_id_returned Backend.respond cachedSettings true ownRecord _).1 ownRecord_in_time
  exact hGiven _ (by rfl)

/-- The database leaves the one statement unanswered, and the response does not say which request it
is for. -/
theorem identifier_lost_when_late :
    ownRecord.request.headers.first? "x-request-id" = some (Text.Utf8.encode "r1") ∧
      (attend Backend.respond cachedSettings true ownRecord
        (.start [.silent] (.ofEntries []))).1.response.status = 408 ∧
      (attend Backend.respond cachedSettings true ownRecord
        (.start [.silent] (.ofEntries []))).1.response.headers.valuesOf "x-request-id" = [] :=
  ⟨by rfl, by rfl, by rfl⟩

/-! ### What the edge looks at -/

/-- The settings agree on all that the layers around the router look at. -/
structure SameEdge (settings settings' : Settings) : Prop where
  environment : settings'.environment = settings.environment
  corsOrigins : settings'.corsOrigins = settings.corsOrigins
  bodyLimit : settings'.bodyLimit = settings.bodyLimit

/-- Does the header say who the caller is? -/
def namesCaller (h : String × List UInt8) : Bool :=
  Text.sameUpToCase h.1 userIdHeader || Text.sameUpToCase h.1 userRoleHeader

/-- The arrivals have the same method, target and identifier, and the same headers but for those
that name the caller.  Anything may come in the body, from any peer, and tokens may get any
stamp. -/
structure Arrival.SameButCaller (a a' : Arrival) : Prop where
  method : a'.request.method = a.request.method
  target : a'.request.target = a.request.target
  headers : a'.request.headers.filter (!namesCaller ·) = a.request.headers.filter (!namesCaller ·)
  newId : a'.newId = a.newId

theorem Arrival.SameButCaller.first?_eq {a a' : Arrival} (h : a.SameButCaller a') {name : String}
    (hId : Text.sameUpToCase name userIdHeader = false)
    (hRole : Text.sameUpToCase name userRoleHeader = false) :
    a'.request.headers.first? name = a.request.headers.first? name := by
  -- A header with the name is not one that names the caller, so it is among those that agree.
  have hKeep : ∀ h : String × List UInt8, Text.sameUpToCase h.1 name = true →
      (!namesCaller h) = true := by
    intro h hName
    rw [Text.sameUpToCase_iff] at hName
    simp only [Text.sameUpToCase, namesCaller, hName] at hId hRole ⊢
    simp [hId, hRole]
  rw [← Headers.first?_filter hKeep, h.headers, Headers.first?_filter hKeep]

section Edge

variable {settings settings' : Settings} {a a' : Arrival}

theorem exceedsLimit_congr (hSettings : SameEdge settings settings') (hSame : a.SameButCaller a') :
    exceedsLimit settings' a'.request.headers = exceedsLimit settings a.request.headers := by
  have hLength : declaredLength a'.request.headers = declaredLength a.request.headers := by
    rw [declaredLength, hSame.first?_eq (by decide) (by decide), declaredLength]
  rw [exceedsLimit, hLength, hSettings.bodyLimit, exceedsLimit]

theorem edgeAnswer_congr (hSettings : SameEdge settings settings') (hSame : a.SameButCaller a') :
    edgeAnswer settings' a'.request = edgeAnswer settings a.request := by
  have hFirst : a'.request.headers.first? "origin" = a.request.headers.first? "origin" :=
    hSame.first?_eq (by decide) (by decide)
  have hOrigin : Cors.originHeaders settings' a'.request.headers =
      Cors.originHeaders settings a.request.headers := by
    simp only [Cors.originHeaders, Cors.admittedOrigin, Cors.legalOrigins, hSettings.environment,
      hSettings.corsOrigins, hFirst]
  rw [edgeAnswer, exceedsLimit_congr hSettings hSame, Cors.preflight, hOrigin]
  rfl

theorem close_congr (hSame : a.SameButCaller a') (response : Response) :
    close a'.newId a'.request response = close a.newId a.request response := by
  have hId : requestId a'.newId a'.request.headers = requestId a.newId a.request.headers := by
    rw [requestId, hSame.first?_eq (by decide) (by decide), hSame.newId, requestId]
  have hAllow : allowHeaders a'.request = allowHeaders a.request := by
    rw [allowHeaders, hSame.target, hSame.method, allowHeaders]
  have hLeavesOut : leavesOutBody a'.request = leavesOutBody a.request := by
    rw [leavesOutBody, hSame.target, hSame.method, leavesOutBody]
  rw [close, hId, hAllow, hLeavesOut, close]

theorem reachesRouter_congr (hSettings : SameEdge settings settings')
    (hSame : a.SameButCaller a') :
    a'.request.ReachesRouter settings' ↔ a.request.ReachesRouter settings := by
  constructor
  · rintro ⟨hLimit, hMethod⟩
    exact ⟨exceedsLimit_congr hSettings hSame ▸ hLimit, hSame.method ▸ hMethod⟩
  · rintro ⟨hLimit, hMethod⟩
    exact ⟨(exceedsLimit_congr hSettings hSame).trans hLimit, hSame.method.symm ▸ hMethod⟩

variable {σ σ' : Type} (respond : (q : Call) → σ → Option q.Answer × σ)
  (respond' : (q : Call) → σ' → Option q.Answer × σ')

theorem attend_congr_of_not_reaches (hSettings : SameEdge settings settings')
    (hSame : a.SameButCaller a') (h : ¬a.request.ReachesRouter settings) (opened opened' : Bool)
    (s : σ) (s' : σ') :
    (attend respond' settings' opened' a' s').1.response =
      (attend respond settings opened a s).1.response := by
  have h' : ¬a'.request.ReachesRouter settings' := mt (reachesRouter_congr hSettings hSame).mp h
  rw [attend_of_not_reaches respond opened s h, attend_of_not_reaches respond' opened' s' h',
    edgeAnswer_congr hSettings hSame, close_congr hSame]

/-- The headers for security are on exactly the responses of the router that come in time.  A
response without them is the one to a request that took too long, or it is the same for all
callers. -/
theorem router_responses_protected (settings : Settings) (opened : Bool) (a : Arrival) (s : σ) :
    (∀ h ∈ protections,
      (attend respond settings opened a s).1.response.headers.valuesOf h.1 =
          [Text.Utf8.encode h.2] ↔
        a.request.ReachesRouter settings ∧ ¬TimesOut respond settings opened a s) ∧
    (¬(a.request.ReachesRouter settings ∧ ¬TimesOut respond settings opened a s) →
      ∀ h ∈ protections,
        (attend respond settings opened a s).1.response.headers.valuesOf h.1 = []) ∧
    ((attend respond settings opened a s).1.response.headers.valuesOf "cache-control" ≠
        [Text.Utf8.encode "no-store"] →
      (attend respond settings opened a s).1.response = timeout ∨
        ∀ {σ' : Type} (respond' : (q : Call) → σ' → Option q.Answer × σ') settings' opened' a' s',
          SameEdge settings settings' → a.SameButCaller a' →
            (attend respond' settings' opened' a' s').1.response =
              (attend respond settings opened a s).1.response) := by
  -- Either the headers are all there, or none of them is.
  have hEither : (a.request.ReachesRouter settings ∧ ¬TimesOut respond settings opened a s) ∧
        (∀ h ∈ protections, (attend respond settings opened a s).1.response.headers.valuesOf h.1 =
          [Text.Utf8.encode h.2]) ∨
      ¬(a.request.ReachesRouter settings ∧ ¬TimesOut respond settings opened a s) ∧
        ∀ h ∈ protections,
          (attend respond settings opened a s).1.response.headers.valuesOf h.1 = [] := by
    rcases attend_cases respond settings opened a s with ⟨hLate, hResponse⟩ |
      ⟨hInTime, inner, hLeaves, hResponse⟩
    · exact .inr ⟨fun h => h.2 hLate, fun _ _ => by rw [hResponse]; rfl⟩
    · simp only [hResponse]
      cases hLeaves with
      | edge hEdge =>
        refine .inr ⟨fun h => hEdge h.1, fun h hMem => ?_⟩
        rw [valuesOf_close_protection hMem]
        exact (named_edgeAnswer settings a.request).valuesOf_eq_nil (edgeNames_ne_protection h hMem)
      | router hRouter hNamed =>
        refine .inl ⟨⟨hRouter, hInTime⟩, fun h hMem => ?_⟩
        rw [valuesOf_close_protection hMem, valuesOf_protection hMem hNamed]
  rcases hEither with ⟨hGoes, hAll⟩ | ⟨hStops, hNone⟩
  · refine ⟨fun h hMem => iff_of_true (hAll h hMem) hGoes, fun h => absurd hGoes h, fun h => ?_⟩
    exact absurd (hAll ("cache-control", "no-store") (by decide)) h
  · refine ⟨fun h hMem => iff_of_false ?_ hStops, fun _ => hNone, fun _ => ?_⟩
    · rw [hNone h hMem]
      exact nofun
    · by_cases hRouter : a.request.ReachesRouter settings
      · -- A response of the router without the headers can only be the one that is too late.
        have hLate := not_not.mp fun hInTime => hStops ⟨hRouter, hInTime⟩
        rcases attend_cases respond settings opened a s with ⟨-, hResponse⟩ | ⟨hInTime, -⟩
        · exact .inl hResponse
        · exact absurd hLate hInTime
      · exact .inr fun respond' _ _ _ s' hSettings hSame =>
          attend_congr_of_not_reaches respond respond' hSettings hSame hRouter _ _ s s'

end Edge

/-- The response in time is protected, and the one that is too late is not. -/
theorem own_record_protected :
    (∀ h ∈ protections,
      (attend Backend.respond cachedSettings true ownRecord
        (.start [] (.ofEntries []))).1.response.headers.valuesOf h.1 = [Text.Utf8.encode h.2]) ∧
    ∀ h ∈ protections,
      (attend Backend.respond cachedSettings true ownRecord
        (.start [.silent] (.ofEntries []))).1.response.headers.valuesOf h.1 = [] := by
  have hLate : TimesOut Backend.respond cachedSettings true ownRecord
      (.start [.silent] (.ofEntries [])) := by
    rw [TimesOut, ← Dialogue.run_eq_none_iff]
    rfl
  constructor
  · intro h hMem
    obtain ⟨hDecided, -⟩ := router_responses_protected Backend.respond cachedSettings true ownRecord
      (.start [] (.ofEntries []))
    exact (hDecided h hMem).mpr ⟨⟨by decide, by decide⟩, ownRecord_in_time⟩
  · exact (router_responses_protected Backend.respond cachedSettings true ownRecord _).2.1
      fun h => h.2 hLate

end Gatehouse.Service
