import Gatehouse.Proofs.Dialogue
import Gatehouse.Service.Handle

/-! From the plan for a request to its response.  A request within the limits is planned for, and
only a task asks anything of the backend.  What is put around a response does not depend on where
it came from: it keeps the status, and the body except for HEAD. -/

namespace Gatehouse.Service

open Web

variable (f : Facilities) (newId : String) (r : Request)

/-- A response with what the outermost layers add to every response. -/
def close (response : Response) : Response :=
  let response := if leavesOutBody r then response.withoutBody else response
  response.withHeaders ((requestIdHeader, requestId newId r.headers) :: allowHeaders r)

/-- A response of the router as it leaves the service. -/
def finish (response : Response) : Response :=
  close newId r (Cors.decorate f.settings r.headers (response.withHeaders securityHeaders))

/-- A body as it leaves the service. -/
def finalBody (body : Body) : Body := if leavesOutBody r then .empty else body

theorem finalBody_of_matched {found : Route × List (String × List UInt8)}
    (h : findRoute r.target.path = some found) (body : Body) :
    finalBody r body = if r.method = "HEAD" then .empty else body := by
  simp [finalBody, leavesOutBody, h]

@[simp] theorem close_status (response : Response) :
    (close newId r response).status = response.status := by
  rw [close]
  split <;> rfl

@[simp] theorem close_body (response : Response) :
    (close newId r response).body = finalBody r response.body := by
  rw [close, finalBody]
  split <;> rfl

@[simp] theorem finish_status (response : Response) :
    (finish f newId r response).status = response.status := by
  rw [finish, close_status]
  rfl

@[simp] theorem finish_body (response : Response) :
    (finish f newId r response).body = finalBody r response.body := by
  rw [finish, close_body]
  rfl

theorem eq_of_finalBody_json {body : Body} {j : Json} (h : finalBody r body = .json j) :
    body = .json j := by
  simp only [finalBody] at h
  split at h
  · cases h
  · exact h

/-- An answer that is planned has no body, or it is the one to a failure. -/
theorem answer_of_plan {settings : Settings} {r : Request} {response : Response}
    (h : plan settings r = .answer response) :
    (∃ status, response = .ofStatus status) ∨ ∃ e, response = .ofFailure e := by
  rw [plan] at h
  split at h
  · cases h
    exact .inl ⟨_, rfl⟩
  · split at h
    · rename_i e _
      cases h
      exact .inr ⟨.api e, rfl⟩
    · split at h
      · cases h
        exact .inl ⟨_, rfl⟩
      · split at h
        · cases h
          exact .inr ⟨_, rfl⟩
        · cases h

/-- What a plan comes to. -/
def carryOut : Plan → Action Response
  | .answer response => .done response
  | .task task => perform f task

theorem handle_of_exceedsLimit (h : exceedsLimit f.settings r.headers = true) :
    handle f newId r = .done (close newId r (.ofFailure (.rejected .lengthLimitExceeded))) := by
  simp only [handle, answerWithinLimits, h]
  rfl

theorem handle_of_options (hLimit : exceedsLimit f.settings r.headers = false)
    (h : r.method = "OPTIONS") :
    handle f newId r = .done (close newId r (Cors.preflight f.settings r.headers)) := by
  simp only [handle, answerWithinLimits, hLimit, h]
  rfl

theorem handle_eq (hLimit : exceedsLimit f.settings r.headers = false)
    (hMethod : r.method ≠ "OPTIONS") :
    handle f newId r =
      (carryOut f (plan f.settings r)).bind fun response => .done (finish f newId r response) := by
  have hOptions : (r.method == "OPTIONS") = false := by simpa using hMethod
  simp only [handle, answerWithinLimits, hLimit, hOptions, route]
  cases plan f.settings r with
  | answer response => rfl
  | task task => exact (Dialogue.bind_assoc _ _ _).trans (Dialogue.bind_assoc _ _ _)

/-- A request is answered at once, without anything in JSON, or by its plan. -/
theorem handle_cases :
    (∃ response, handle f newId r = .done response ∧ ∀ j, response.body ≠ .json j) ∨
      handle f newId r =
        (carryOut f (plan f.settings r)).bind fun response =>
          .done (finish f newId r response) := by
  by_cases hLimit : exceedsLimit f.settings r.headers = true
  · refine .inl ⟨_, handle_of_exceedsLimit f newId r hLimit, fun j hj => ?_⟩
    rw [close_body] at hj
    cases eq_of_finalBody_json r hj
  rw [Bool.not_eq_true] at hLimit
  by_cases hOptions : r.method = "OPTIONS"
  · refine .inl ⟨_, handle_of_options f newId r hLimit hOptions, fun j hj => ?_⟩
    rw [close_body] at hj
    cases eq_of_finalBody_json r hj
  · exact .inr (handle_eq f newId r hLimit hOptions)

/-- Settings for development with a cache. -/
def cachedSettings : Settings :=
  ⟨3000, "db", .development, [], ⟨developmentSecret, 900, 604800⟩, some "redis://cache", 300, 30,
    1048576, [], false⟩

end Gatehouse.Service
