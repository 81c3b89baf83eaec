import Gatehouse.Proofs.Service.Stages

/-! Which of several faults of a request counts.  Behind the gates the response to a request is that
of the first check that it fails, in one order for all routes, and a request that fails none is a
task.  What else is wrong with the request makes no difference. -/

namespace Gatehouse.Service

open Identity Web Screen

/-- A failure is answered, and a task is left to do. -/
def Plan.ofJudgment : Except Failure Task → Plan
  | .error e => .answer (.ofFailure e)
  | .ok t => .task t

namespace Visit

variable {v : Visit}

/-- The way of the request from the guard over its parameters to the task. -/
def judge (v : Visit) : Except Failure Task :=
  (v.route.pass v.policy v.params v.request).mapError .api >>= fun c =>
    Task.ofRequest v.operation v.facilities.settings.bodyLimit.toNat c v.params v.request

theorem errorOf_judge (h : v.Arrives) : errorOf v.judge = v.firstFailure Check.inOrder := by
  have hPass : v.route.pass v.policy v.params v.request =
      screen v.request.target.query v.params >>= fun _ => v.admission :=
    Route.pass_of_gate h.gated ..
  rw [Check.inOrder, firstFailure_append, firstFailure_append]
  refine errorOf_bind ?_ fun c hOk => ?_
  · rw [hPass, errorOf_mapError, ← errorOf_screen, ← errorOf_admission, ← Option.map_or]
    exact congrArg _ (errorOf_bind rfl fun _ _ => rfl)
  · rw [Except.mapError_ok_iff, hPass] at hOk
    obtain ⟨_, -, hAdmission⟩ := Except.bind_ok_iff.mp hOk
    obtain ⟨rfl, hId⟩ := admission_ok hAdmission
    exact errorOf_ofRequest hId

theorem plan_eq (h : v.Arrives) :
    plan v.facilities.settings v.request = .ofJudgment v.judge := by
  simp only [plan, h.matched, h.offered, judge, policy]
  cases v.route.pass v.facilities.settings.gatewayPolicy v.params v.request with
  | error e => rfl
  | ok c =>
    cases Task.ofRequest v.operation v.facilities.settings.bodyLimit.toNat c v.params v.request <;>
      rfl

/-- The response to the request, as a computation that asks the backend. -/
def answer (v : Visit) : Action Response := handle v.facilities v.newId v.request

/-- The request fails a check, and none before it. -/
def FailsFirst (v : Visit) (check : Check) (e : Failure) : Prop :=
  (∀ earlier ∈ check.earlier, v.failure? earlier = none) ∧ v.failure? check = some e

/-- What a request fails on, it fails on first at one of the checks. -/
theorem firstFailure_eq_some_iff {e : Failure} :
    v.firstFailure Check.inOrder = some e ↔ ∃ check, v.FailsFirst check e := by
  rw [firstFailure, findSome?_eq_some_iff_first]
  constructor
  · rintro ⟨check, -, hFails, hPasses⟩
    exact ⟨check, hPasses, hFails⟩
  · rintro ⟨check, hPasses, hFails⟩
    exact ⟨check, check.mem_inOrder, hFails, hPasses⟩

/-- Every failure of a check has the status and the code of the check. -/
theorem outcome_of_failure? {check : Check} {e : Failure} (h : v.failure? check = some e) :
    ((Response.ofFailure e).status, e.code?) = check.outcome := by
  cases check with
  | queryValues | pathValues | rules =>
    obtain ⟨_, -, rfl⟩ := Option.map_eq_some_iff.mp h
    rfl
  | pathUser =>
    rw [failure?] at h
    split at h
    · obtain ⟨e, he, rfl⟩ := Option.map_eq_some_iff.mp h
      obtain ⟨message, rfl⟩ := pathUser_error (errorOf_eq_some_iff.mp he)
      rfl
    · cases h
  | _ =>
    obtain ⟨-, rfl⟩ := failIf_eq_some_iff.mp h
    rfl

theorem finalBody_eq (h : v.Arrives) (body : Body) :
    finalBody v.request body = if v.request.method = "HEAD" then .empty else body :=
  finalBody_of_matched _ h.matched body

theorem plan_of_failsFirst (h : v.Arrives) {check : Check} {e : Failure}
    (hFails : v.FailsFirst check e) :
    plan v.facilities.settings v.request = .answer (.ofFailure e) := by
  have hError : v.judge = .error e := by
    rw [← errorOf_eq_some_iff, errorOf_judge h]
    exact firstFailure_eq_some_iff.mpr ⟨check, hFails⟩
  rw [plan_eq h, hError]
  rfl

theorem answer_of_failsFirst (h : v.Arrives) {check : Check} {e : Failure}
    (hFails : v.FailsFirst check e) :
    v.answer = .done (finish v.facilities v.newId v.request (.ofFailure e)) := by
  rw [answer, handle_eq _ _ _ h.within_limit h.not_options, plan_of_failsFirst h hFails]
  rfl

/-- An answer that is planned is that to the first failure. -/
theorem failsFirst_of_plan (h : v.Arrives) {response : Response}
    (hPlan : plan v.facilities.settings v.request = .answer response) :
    ∃ check e, v.FailsFirst check e ∧ response = .ofFailure e := by
  rw [plan_eq h] at hPlan
  cases hJudge : v.judge with
  | ok task =>
    rw [hJudge] at hPlan
    cases hPlan
  | error e =>
    rw [hJudge] at hPlan
    cases hPlan
    have hFirst : v.firstFailure Check.inOrder = some e := by
      rw [← errorOf_judge h, hJudge]
      rfl
    obtain ⟨check, hFails⟩ := firstFailure_eq_some_iff.mp hFirst
    exact ⟨check, e, hFails, rfl⟩

theorem plan_of_passes (h : v.Arrives) (hPasses : ∀ check, v.failure? check = none) :
    ∃ task, plan v.facilities.settings v.request = .task task := by
  have hNone : errorOf v.judge = none := by
    rw [errorOf_judge h]
    exact List.findSome?_eq_none_iff.mpr fun check _ => hPasses check
  obtain ⟨task, hTask⟩ := errorOf_eq_none_iff.mp hNone
  refine ⟨task, ?_⟩
  rw [plan_eq h, hTask]
  rfl

end Visit

/-- The first check that a request fails decides on the response, except that HEAD leaves out the
body.  The database comes after all checks, and requests that agree up to the first failed check
are answered alike.  They agree on a check if it has the same against both of them, down to the
complaint of the reader. -/
theorem first_failure_decides {v : Visit} (h : v.Arrives) :
    (∀ check e, v.FailsFirst check e →
      ∃ response, v.answer = .done response ∧ (response.status, e.code?) = check.outcome ∧
        response.body =
          if v.request.method = "HEAD" then .empty else (Response.ofFailure e).body) ∧
    ((∀ check, v.failure? check = none) →
      ∃ task, plan v.facilities.settings v.request = .task task ∧
        v.answer = (perform v.facilities task).bind fun response =>
          .done (finish v.facilities v.newId v.request response)) ∧
    ∀ (w : Visit) check e, w.Arrives → v.FailsFirst check e →
      (∀ c ∈ check.earlier ++ [check], w.failure? c = v.failure? c) →
      ∃ a b, v.answer = .done a ∧ w.answer = .done b ∧ a.status = b.status ∧
        ((v.request.method = "HEAD" ↔ w.request.method = "HEAD") → a.body = b.body) := by
  refine ⟨fun check e hFails => ?_, fun hPasses => ?_, fun w check e hw hFails hAgree => ?_⟩
  · refine ⟨_, Visit.answer_of_failsFirst h hFails, ?_, ?_⟩
    · rw [finish_status]
      exact Visit.outcome_of_failure? hFails.2
    · rw [finish_body, Visit.finalBody_eq h]
  · obtain ⟨task, hTask⟩ := Visit.plan_of_passes h hPasses
    refine ⟨task, hTask, ?_⟩
    rw [Visit.answer, handle_eq _ _ _ h.within_limit h.not_options, hTask]
    rfl
  · -- Both requests fail the check with the same failure, and nothing else reaches the response.
    have hFailsToo : w.FailsFirst check e := by
      refine ⟨fun c hc => ?_, ?_⟩
      · rw [hAgree c (List.mem_append_left _ hc)]
        exact hFails.1 c hc
      · rw [hAgree check (List.mem_append_right _ List.mem_cons_self)]
        exact hFails.2
    refine ⟨_, _, Visit.answer_of_failsFirst h hFails, Visit.answer_of_failsFirst hw hFailsToo, ?_,
      fun hHead => ?_⟩
    · rw [finish_status, finish_status]
    · rw [finish_body, finish_body, Visit.finalBody_eq h, Visit.finalBody_eq hw]
      simp only [hHead]

/-- A request on user 0 with identity headers and nothing else. -/
def visitNobody (method : String) (operation : Operation) (headers : Headers) : Visit where
  facilities := ⟨cachedSettings, true, ⟨0, 1, "a", "r"⟩⟩
  newId := "id"
  request := ⟨method, ⟨Text.Utf8.encode "/api/v1/users/0", none⟩, headers, [], none, ""⟩
  route := ⟨[literal "/api/v1/users/", .segment "user_id"], .users, userOperations⟩
  params := [("user_id", Text.Utf8.encode "0")]
  gate := .userOrAdmin
  operation := operation

theorem guest_update_forbidden :
    ∃ response, (visitNobody "PUT" .updateUser [Response.header "x-user-id" "7",
        Response.header "x-user-role" "guest"]).answer = .done response ∧
      response.status = 403 := by
  obtain ⟨response, hDone, hOutcome, -⟩ :=
    (first_failure_decides (v := visitNobody "PUT" .updateUser
      [Response.header "x-user-id" "7", Response.header "x-user-role" "guest"])
      ⟨by decide, by decide, by rfl, by rfl, by rfl⟩).1 .roleGate (.api .forbidden)
      ⟨by decide, by decide⟩
  exact ⟨response, hDone, congrArg Prod.fst hOutcome⟩

/-- A request that asks for no body is not answered with one. -/
theorem head_leaves_out_body :
    (visitNobody "GET" .getUser []).Arrives ∧ (visitNobody "HEAD" .getUser []).Arrives ∧
      (visitNobody "GET" .getUser []).FailsFirst .userIdGiven (.api .unauthenticated) ∧
      (∀ check, (visitNobody "HEAD" .getUser []).failure? check =
        (visitNobody "GET" .getUser []).failure? check) ∧
      ∃ a b, (visitNobody "GET" .getUser []).answer = .done a ∧
        (visitNobody "HEAD" .getUser []).answer = .done b ∧ a.body ≠ b.body := by
  refine ⟨⟨by decide, by decide, by rfl, by rfl, by rfl⟩,
    ⟨by decide, by decide, by rfl, by rfl, by rfl⟩, ⟨by decide, by decide⟩, fun _ => rfl,
    _, _, rfl, rfl, nofun⟩

end Gatehouse.Service
