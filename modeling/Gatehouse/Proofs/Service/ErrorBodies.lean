import Gatehouse.Proofs.Service.Authorization
import Gatehouse.Proofs.Service.Cacheless
import Gatehouse.Proofs.Service.Precedence
import Gatehouse.Proofs.Service.Screening
import Gatehouse.Proofs.Token.Signed

/-! The bodies of responses with an error.  The service writes its errors in one form, with one of a
few codes.  It does so for every request that it can read; one that it cannot read is rejected in
plain text, and a response that comes too late has no body. -/

namespace Gatehouse.Service

open Identity Roles Token Users Web

/-! ### Bodies with an error -/

/-- The codes of the errors that the service answers with. -/
def errorCodes : List String :=
  ["INVALID_INPUT", "INVALID_PATH", "VALIDATION_ERROR", "NOT_FOUND", "UNAUTHENTICATED",
    "MALFORMED_IDENTITY", "FORBIDDEN", "CONFLICT", "INTERNAL_SERVER_ERROR"]

/-- The body of the response is an error with one of the codes. -/
def Response.HasErrorBody (response : Response) : Prop :=
  ∃ code ∈ errorCodes, ∃ message,
    response.body = .json (.record [("error", .record [("code", .text code),
      ("message", .text message)])])

theorem hasErrorBody_ofError {e : ApiError} (h : e.code ∈ errorCodes) :
    (Response.ofError e).HasErrorBody := ⟨e.code, h, e.message, rfl⟩

/-! ### The responses of tasks -/

/-- The errors that tasks end with. -/
def taskErrors : List ApiError :=
  [.conflict, .internal, userNotFound, .roleLookupFailed, .signingFailed]

/-- What a task can be answered with. -/
inductive Response.IsAnswer : Response → Prop
  | given {status : Nat} (j : Json) (h : status ∈ [200, 201]) : IsAnswer (.json status j)
  | deleted : IsAnswer (.ofStatus 204)
  | failed {e : ApiError} (h : e ∈ taskErrors) : IsAnswer (.ofError e)

theorem taskErrors_codes : ∀ e ∈ taskErrors, e.code ∈ errorCodes := by decide

theorem taskErrors_status : ∀ e ∈ taskErrors, e.status ∈ [404, 409, 500] := by decide

theorem Response.IsAnswer.status_mem {response : Response} (h : response.IsAnswer) :
    response.status ∈ [200, 201, 204, 404, 409, 500] := by
  cases h with
  | given j h => exact List.mem_append_left [204, 404, 409, 500] h
  | deleted => decide
  | failed h => exact List.mem_append_right [200, 201, 204] (taskErrors_status _ h)

theorem Response.IsAnswer.hasErrorBody {response : Response} (h : response.IsAnswer)
    (hStatus : 400 ≤ response.status) : response.HasErrorBody := by
  cases h with
  | @given status j h =>
    have hSuccess : ∀ n ∈ [200, 201], n < 400 := by decide
    exact absurd (hSuccess status h) (Nat.not_lt.mpr hStatus)
  | deleted => exact absurd hStatus (by decide)
  | failed h => exact hasErrorBody_ofError (taskErrors_codes _ h)

theorem isAnswer_ofRepo (e : RepoError) : (Response.ofError (errorOfRepo e)).IsAnswer := by
  cases e <;> exact .failed (by decide)

theorem isAnswer_answerUser (reply : Except RepoError (Option UserRow)) :
    (answerUser reply).IsAnswer := by
  unfold answerUser
  split
  · exact .given _ (by decide)
  · exact .failed (by decide)
  · exact isAnswer_ofRepo _

theorem isAnswer_answerTokens (f : Facilities) (subject : Subject)
    {roles : Except ApiError (List String)} (h : ∀ e, roles = .error e → e = .roleLookupFailed) :
    (f.answerTokens subject roles).IsAnswer := by
  unfold Facilities.answerTokens answerPair
  split
  · exact .given _ (by decide)
  · rename_i e hPair
    have hError : e = .roleLookupFailed ∨ e = .signingFailed := by
      rcases Except.bind_error_iff.mp hPair with hAccess | ⟨_, -, hRefresh⟩
      · rcases Except.bind_error_iff.mp hAccess with hRoles | ⟨_, -, hSign⟩
        · exact .inl (h e hRoles)
        · unfold Issuer.accessToken at hSign
          exact .inr (sign_error hSign)
      · have hSign := Except.map_error_iff.mp hRefresh
        unfold Issuer.refreshToken at hSign
        exact .inr (sign_error hSign)
    rcases hError with rfl | rfl <;> exact .failed (by decide)

theorem perform_ends (f : Facilities) (task : Task) :
    (perform f task).Ends Response.IsAnswer := by
  cases task with
  | health => exact .given _ (by decide)
  | showUser user => exact fun reply => isAnswer_answerUser _
  | updateUser user name email => exact fun reply => isAnswer_answerUser _
  | deleteUser user =>
    intro reply
    simp only [Dialogue.bind]
    split
    · exact isAnswer_ofRepo _
    · exact .failed (by decide)
    · split
      · exact (Dialogue.ends_true _).bind fun _ _ => .deleted
      · exact .deleted
  | listUsers name limit offset =>
    intro reply
    simp only [Dialogue.bind]
    split
    · exact .given _ (by decide)
    · exact isAnswer_ofRepo _
  | createUser name email =>
    intro reply
    simp only [Dialogue.bind]
    split
    · exact .given _ (by decide)
    · exact isAnswer_ofRepo _
  | issueTokens subject roles =>
    cases roles with
    | some roles =>
      rw [perform_issueTokens_some]
      refine isAnswer_answerTokens f subject fun e hRoles => ?_
      cases hRoles
    | none =>
      rw [perform_issueTokens_none]
      refine (Dialogue.ends_true _).bind fun answer _ => isAnswer_answerTokens f subject ?_
      intro e hRoles
      obtain ⟨_, -, rfl⟩ := Except.mapError_error_iff.mp hRoles
      rfl

/-! ### Requests that cannot be read -/

/-- The checks on whether a request can be read. -/
def Check.onReading : List Check := .listQuery :: onBody

theorem Check.code_mem_errorCodes {check : Check} {code : String}
    (h : check.outcome.2 = some code) : code ∈ errorCodes := by
  cases check <;> cases h <;> decide

theorem Check.mem_onReading_iff {check : Check} :
    check ∈ onReading ↔ check.outcome.2 = none := by
  cases check <;> decide

variable {v : Visit}

/-- The request cannot be read: it promises too long a body, or it fails first at one of the checks
on that. -/
def Request.IsUnread (settings : Settings) (r : Request) : Prop :=
  exceedsLimit settings r.headers = true ∨
    ∃ v : Visit, v.facilities.settings = settings ∧ v.request = r ∧ v.Arrives ∧
      ∃ check ∈ Check.onReading, ∃ e, v.FailsFirst check e

/-- The response gives the reason for which a request could not be read, in plain text.  What the
reader complains of in it may be anything. -/
def Response.Rejects (response : Response) : Prop :=
  ∃ reason : Rejection, response.status = reason.status ∧ response.body = .text reason.message

theorem rejects_ofFailure {check : Check} {e : Failure} (hCheck : check ∈ Check.onReading)
    (h : v.failure? check = some e) : (Response.ofFailure e).Rejects := by
  have hCode : e.code? = none :=
    (congrArg Prod.snd (Visit.outcome_of_failure? h)).trans (Check.mem_onReading_iff.mp hCheck)
  cases e with
  | api e => cases hCode
  | rejected reason => exact ⟨reason, rfl, rfl⟩

theorem hasErrorBody_ofFailure {check : Check} {e : Failure} (hCheck : check ∉ Check.onReading)
    (h : v.failure? check = some e) : (Response.ofFailure e).HasErrorBody := by
  have hOutcome : e.code? = check.outcome.2 := congrArg Prod.snd (Visit.outcome_of_failure? h)
  cases e with
  | api e => exact hasErrorBody_ofError (Check.code_mem_errorCodes hOutcome.symm)
  | rejected reason => exact absurd (Check.mem_onReading_iff.mpr hOutcome.symm) hCheck

theorem ne_options_of_offer {route : Route} (hMem : route ∈ routes) {method : String}
    {op : Operation} (hOp : route.operation? method = some op) : method ≠ "OPTIONS" := by
  have hNone : ∀ route ∈ routes, route.operation? "OPTIONS" = none := by decide
  rintro rfl
  rw [hNone route hMem] at hOp
  cases hOp

theorem code_of_pass_error {route : Route} (hGate : route.group.gate? = none)
    {policy : GatewayPolicy} {params : List (String × List UInt8)} {r : Request} {e : ApiError}
    (h : route.pass policy params r = .error e) : e.code = "INVALID_INPUT" := by
  have hLayers : route.group.layers policy = [] := by
    cases hGroup : route.group <;> rw [hGroup] at hGate <;> first | rfl | cases hGate
  rw [Route.pass, hLayers] at h
  split at h
  · rcases Except.bind_error_iff.mp h with hScreen | ⟨_, -, hNone⟩
    · exact (screen_error hScreen).2
    · cases hNone
  · cases h

/-- Nothing has to be read for an operation that wants no body and no query. -/
theorem not_isUnread {settings : Settings} {r : Request} {route : Route}
    {params : List (String × List UInt8)} {op : Operation}
    (hLimit : exceedsLimit settings r.headers = false)
    (hRoute : findRoute r.target.path = some (route, params))
    (hOp : route.operation? r.method = some op) (hForm : op.form? = none)
    (hList : op ≠ .listUsers) : ¬r.IsUnread settings := by
  rintro (hExceeds | ⟨v, -, rfl, hArrives, check, hCheck, e, -, hFails⟩)
  · rw [hLimit] at hExceeds
    cases hExceeds
  · rw [hArrives.matched] at hRoute
    cases hRoute
    rw [hArrives.offered] at hOp
    cases hOp
    simp only [Check.onReading, Check.onBody, List.mem_cons, List.not_mem_nil, or_false] at hCheck
    rcases hCheck with rfl | rfl | rfl | rfl | rfl <;>
      simp [Visit.failure?, failIf, hForm, hList] at hFails

section Plans

variable {settings : Settings} {r : Request} {route : Route}
  {params : List (String × List UInt8)} {op : Operation}

/-- What is planned for a request that can be read is a task, or an answer with an error. -/
theorem hasErrorBody_of_plan (hRoute : findRoute r.target.path = some (route, params))
    (hOp : route.operation? r.method = some op) (hRead : ¬r.IsUnread settings) {response : Response}
    (hPlan : plan settings r = .answer response) : response.HasErrorBody := by
  obtain ⟨hLimit, hChecks⟩ := not_or.mp hRead
  rw [Bool.not_eq_true] at hLimit
  cases hGate : route.group.gate? with
  | none =>
    -- The health check alone has no gate, and it reads nothing.
    obtain rfl := eq_health_of_gate_none hGate (operation_mem hRoute hOp)
    simp only [plan, hRoute, hOp] at hPlan
    split at hPlan
    · rename_i e hPass
      cases hPlan
      refine hasErrorBody_ofError ?_
      rw [code_of_pass_error hGate hPass]
      exact List.mem_cons_self
    · cases hPlan
  | some gate =>
    have hOptions := ne_options_of_offer (findRoute_eq_some hRoute).1 hOp
    have hArrives : Visit.Arrives
        ⟨⟨settings, true, ⟨0, 0, "", ""⟩⟩, "", r, route, params, gate, op⟩ :=
      ⟨hLimit, hOptions, hRoute, hGate, hOp⟩
    obtain ⟨check, e, hFails, rfl⟩ := Visit.failsFirst_of_plan hArrives hPlan
    refine hasErrorBody_ofFailure (fun hCheck => ?_) hFails.2
    exact hChecks ⟨_, rfl, rfl, hArrives, check, hCheck, e, hFails⟩

end Plans

variable {σ : Type} (respond : (q : Call) → σ → Option q.Answer × σ)

def Visit.arrival (v : Visit) : Arrival := ⟨v.request, v.facilities.stamp, v.newId⟩

/-- What comes of the request. -/
def Visit.turn (v : Visit) (s : σ) : Turn :=
  (attend respond v.facilities.settings v.facilities.cacheOpened v.arrival s).1

/-- A request that cannot be read is rejected in plain text.  The response to any other one has the
body of an error whenever it has the status of one, unless the time is up. -/
theorem error_bodies {settings : Settings} (opened : Bool) {a : Arrival} (s : σ) {route : Route}
    {params : List (String × List UInt8)} {op : Operation}
    (hRoute : findRoute a.request.target.path = some (route, params))
    (hOp : route.operation? a.request.method = some op) (hHead : a.request.method ≠ "HEAD") :
    (a.request.IsUnread settings → (attend respond settings opened a s).1.response.Rejects) ∧
    (¬a.request.IsUnread settings → 400 ≤ (attend respond settings opened a s).1.response.status →
      (attend respond settings opened a s).1.response.HasErrorBody ∨
        (attend respond settings opened a s).1.response = timeout) := by
  have hBody : ∀ body, finalBody a.request body = body := fun body =>
    (finalBody_of_matched _ hRoute body).trans (if_neg hHead)
  have hOptions := ne_options_of_offer (findRoute_eq_some hRoute).1 hOp
  by_cases hLimit : exceedsLimit settings a.request.headers = true
  · have hHandle := handle_of_exceedsLimit ⟨settings, opened, a.stamp⟩ a.newId a.request hLimit
    refine ⟨fun _ => ?_, fun hRead => absurd (.inl hLimit) hRead⟩
    simp only [attend, hHandle, Dialogue.run, Option.getD_some]
    exact ⟨.lengthLimitExceeded, close_status _ _ _, (close_body _ _ _).trans (hBody _)⟩
  rw [Bool.not_eq_true] at hLimit
  have hHandle := handle_eq ⟨settings, opened, a.stamp⟩ a.newId a.request hLimit hOptions
  constructor
  · rintro (hExceeds | ⟨v, rfl, hSame, hArrives, check, hCheck, e, hFails⟩)
    · rw [hLimit] at hExceeds
      cases hExceeds
    · have hPlan := Visit.plan_of_failsFirst hArrives hFails
      rw [hSame] at hPlan
      obtain ⟨reason, hStatus, hText⟩ := rejects_ofFailure hCheck hFails.2
      simp only [attend, hHandle, hPlan]
      exact ⟨reason, (finish_status _ _ _ _).trans hStatus,
        (finish_body _ _ _ _).trans ((hBody _).trans hText)⟩
  · intro hRead
    -- A planned answer is an error that can be told, and a task reports its errors in the one form.
    have hEnds : (carryOut ⟨settings, opened, a.stamp⟩ (plan settings a.request)).Ends
        fun response => 400 ≤ response.status → response.HasErrorBody := by
      cases hPlan : plan settings a.request with
      | answer response => exact fun _ => hasErrorBody_of_plan hRoute hOp hRead hPlan
      | task task => exact (perform_ends _ task).imp fun _ hAnswer => hAnswer.hasErrorBody
    simp only [attend, hHandle, Dialogue.run_map]
    cases hRun : ((carryOut ⟨settings, opened, a.stamp⟩ (plan settings a.request)).run respond s).1
      with
    | none => exact fun _ => .inr rfl
    | some response =>
      intro hStatus
      obtain ⟨code, hCode, message, hError⟩ := hEnds.run respond hRun (by simpa using hStatus)
      exact .inl ⟨code, hCode, message, (finish_body _ _ _ _).trans ((hBody _).trans hError)⟩

/-- An administrator creates a user. -/
def creation (settings : Settings) (body : List UInt8) (complaint : String) : Visit where
  facilities := ⟨settings, true, ⟨0, 1, "a", "r"⟩⟩
  newId := "id"
  request :=
    ⟨"POST", ⟨Text.Utf8.encode "/api/v1/admin/users", none⟩,
      [Response.header "x-user-id" "1", Response.header "x-user-role" "admin",
        Response.header "content-type" "application/json"], body, none, complaint⟩
  route := ⟨[literal "/api/v1/admin/users"], .admin, [("GET", .listUsers), ("POST", .createUser)]⟩
  params := []
  gate := .admin
  operation := .createUser

/-- The record of a new user breaks off after its first character. -/
def brokenCreation : Visit :=
  creation cachedSettings (Text.Utf8.encode "[") "unexpected end of the list"

theorem brokenCreation_isUnread : brokenCreation.request.IsUnread cachedSettings :=
  .inr ⟨brokenCreation, rfl, rfl, ⟨by decide, by decide, by rfl, by rfl, by rfl⟩, .jsonText,
    by decide, .rejected (.malformedJson "unexpected end of the list"), by decide, by decide⟩

/-- User 7 looks at the record of another user. -/
def curiosity : Arrival where
  request :=
    ⟨"GET", ⟨Text.Utf8.encode "/api/v1/users/8", none⟩, [Response.header "x-user-id" "7"], [], none,
      ""⟩
  stamp := ⟨0, 1, "a", "r"⟩
  newId := "id"

theorem rejected_or_refused :
    (brokenCreation.turn Backend.respond (.start [] (.ofEntries []))).response.Rejects ∧
    (attend Backend.respond cachedSettings true curiosity
      (.start [] (.ofEntries []))).1.response.status = 403 ∧
    (attend Backend.respond cachedSettings true curiosity
      (.start [] (.ofEntries []))).1.response.HasErrorBody := by
  have hCurious : findRoute curiosity.request.target.path =
      some (⟨[literal "/api/v1/users/", .segment "user_id"], .users, userOperations⟩,
        [("user_id", Text.Utf8.encode "8")]) := by rfl
  have hCreation : findRoute brokenCreation.arrival.request.target.path =
      some (brokenCreation.route, []) := by rfl
  have hRead : ¬curiosity.request.IsUnread cachedSettings :=
    not_isUnread (by decide) hCurious rfl rfl (by decide)
  obtain ⟨hUnread, -⟩ := error_bodies Backend.respond true (.start [] (.ofEntries [])) hCreation
    rfl (by decide)
  obtain ⟨-, hAnswered⟩ := error_bodies Backend.respond true (.start [] (.ofEntries [])) hCurious
    rfl (by decide)
  exact ⟨hUnread brokenCreation_isUnread, rfl, (hAnswered hRead (by decide)).resolve_right nofun⟩

/-- A body that is not JSON is answered with a plain text in place of an error. -/
theorem malformed_json_rejected_in_text :
    findRoute brokenCreation.request.target.path = some (brokenCreation.route, []) ∧
    brokenCreation.route.operation? brokenCreation.request.method = some .createUser ∧
    (brokenCreation.turn Backend.respond (.start [] (.ofEntries []))).response.status = 400 ∧
    ¬(brokenCreation.turn Backend.respond (.start [] (.ofEntries []))).response.HasErrorBody := by
  refine ⟨by rfl, rfl, rfl, ?_⟩
  rintro ⟨code, -, message, hBody⟩
  cases hBody

end Gatehouse.Service
