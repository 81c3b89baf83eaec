import Gatehouse.Proofs.Identity.Extraction
import Gatehouse.Proofs.Service.Checks

/-! The stages that a request to a guarded route goes through: the guard over its parameters, the
gates, and the checks of its operation.  Each stage fails with the first thing that its own checks
have against the request. -/

namespace Gatehouse.Service

open Identity Users Token Web Screen

variable {v : Visit}

theorem errorOf_screen :
    (errorOf (screen v.request.target.query v.params)).map .api =
      v.firstFailure Check.onParameters := by
  simp only [Check.onParameters, Visit.firstFailure_cons, Visit.firstFailure_nil, Visit.failure?,
    screen, inspect, queryPairs]
  cases Template.decodeParams? v.params with
  | none => rfl
  | some decoded =>
    cases firstSuspect ((v.request.target.query.map Form.decode).getD []) with
    | some key => rfl
    | none => cases hPath : firstSuspect decoded <;> simp [hPath, failIf]

theorem Visit.lacksUserId_iff : v.lacksUserId = true ↔ LacksUser v.request.headers := by
  rw [lacksUserId, LacksUser]
  cases v.request.headers.first? userIdHeader with
  | none => simp
  | some value => simp [readable?_eq_some_empty_iff]

/-- The number of the caller is lacking, or cannot be read, or is known. -/
theorem Visit.idOfHeaders_cases :
    (v.lacksUserId = true ∧ Principal.idOfHeaders v.request.headers = .error .missing) ∨
      (v.lacksUserId = false ∧ ((Principal.idOfHeaders v.request.headers = .error .malformed) ∨
        ∃ id, Principal.idOfHeaders v.request.headers = .ok id)) := by
  rw [← Bool.not_eq_true, lacksUserId_iff, ← Principal.idOfHeaders_missing_iff]
  cases hId : Principal.idOfHeaders v.request.headers with
  | ok id => exact .inr ⟨nofun, .inr ⟨id, rfl⟩⟩
  | error e =>
    rcases Principal.idOfHeaders_error hId with rfl | rfl
    · exact .inl ⟨rfl, rfl⟩
    · exact .inr ⟨nofun, .inl rfl⟩

/-- What stands behind the guard over the parameters. -/
def Visit.admission (v : Visit) : Except ApiError Context :=
  match v.policy.extract v.request.headers v.request.peer with
  | .error e => .error (.ofIdentity e)
  | .ok p =>
    if p.id = 0 then .error .unauthenticated
    else if v.gate.allows p.role = true then .ok ⟨some p⟩
    else .error .forbidden

theorem errorOf_admission :
    (errorOf v.admission).map .api = v.firstFailure Check.onCaller := by
  simp only [Check.onCaller, Visit.firstFailure_cons, Visit.firstFailure_nil, Visit.failure?,
    Visit.admission, GatewayPolicy.extract, Principal.ofHeaders_eq, Visit.caller]
  by_cases hPeer : v.policy.trust.admits v.request.peer = true
  · rcases v.idOfHeaders_cases with ⟨hLacks, hId⟩ | ⟨hLacks, hId | ⟨id, hId⟩⟩
    · simp [hPeer, hLacks, hId, failIf, ApiError.ofIdentity]
    · simp [hPeer, hLacks, hId, failIf, ApiError.ofIdentity]
    · by_cases hRole : v.policy.requireRole = true ∧
        Principal.roleOfHeaders v.request.headers = none
      · simp [hPeer, hLacks, hId, hRole.1, hRole.2, failIf, ApiError.ofIdentity]
      · by_cases hZero : id = 0
        · simp [hPeer, hLacks, hId, hRole, hZero, failIf]
        · by_cases hAllows : v.gate.allows (roleOrUser v.request.headers) = true
          · simp [hPeer, hLacks, hId, hRole, hZero, hAllows, failIf]
          · simp [hPeer, hLacks, hId, hRole, hZero, hAllows, failIf]
  · simp [hPeer, failIf, ApiError.ofIdentity]

theorem admission_ok {c : Context} (h : v.admission = .ok c) :
    c = ⟨some v.caller⟩ ∧ v.caller.id ≠ 0 := by
  rw [Visit.admission] at h
  split at h
  · cases h
  · rename_i p hExtract
    split at h
    · cases h
    · rename_i hId
      split at h
      · cases h
        have hHeaders := (GatewayPolicy.extract_ok_iff.mp hExtract).2
        have hCaller : p = v.caller := by
          rw [Principal.ofHeaders_eq] at hHeaders
          rw [Visit.caller]
          split at hHeaders
          · cases hHeaders
          · rename_i id hNumber
            split at hHeaders
            · cases hHeaders
            · cases hHeaders
              rw [hNumber]
        subst hCaller
        exact ⟨rfl, hId⟩
      · cases h

theorem errorOf_readBody {form : BodyForm} (h : v.operation.form? = some form) :
    (errorOf (readBody form.shape v.facilities.settings.bodyLimit.toNat v.request)).map .rejected =
      v.firstFailure Check.onBody := by
  simp only [Check.onBody, Visit.firstFailure_cons, Visit.firstFailure_nil, Visit.failure?, h,
    Visit.readError?, readBody]
  by_cases hJson : MediaType.isJson v.request.headers = true
  · by_cases hSize : bodyLimit v.facilities.settings.bodyLimit.toNat v.request.headers <
        v.request.body.length
    · simp [hJson, hSize, failIf]
    · cases hRead : form.shape.read v.request.body with
      | ok content => simp [hJson, hSize, hRead, failIf]
      | error e => cases e <;> simp [hJson, hSize, hRead, failIf]
  · simp [hJson, failIf]

/-- The body of the request is looked into: it is said to be JSON, and it is not too long. -/
structure Request.BodyIsRead (limit : Nat) (r : Request) : Prop where
  isJson : MediaType.isJson r.headers = true
  fits : r.body.length ≤ bodyLimit limit r.headers

theorem readBody_ok_iff {α : Type} {shape : Json.Shape α} {limit : Nat} {r : Request} {a : α} :
    readBody shape limit r = .ok a ↔ r.BodyIsRead limit ∧ shape.read r.body = .ok a := by
  rw [readBody]
  constructor
  · intro h
    split at h
    · cases h
    · rename_i hJson
      split at h
      · cases h
      · rename_i hSize
        cases hRead : shape.read r.body with
        | ok content =>
          rw [hRead] at h
          cases h
          exact ⟨⟨by simpa using hJson, Nat.le_of_not_lt hSize⟩, rfl⟩
        | error e =>
          rw [hRead] at h
          cases e <;> cases h
  · rintro ⟨⟨hJson, hSize⟩, hRead⟩
    rw [if_neg (by simpa using hJson), if_neg (Nat.not_lt_of_le hSize), hRead]

theorem pathUser_error {params : List (String × List UInt8)} {e : ApiError}
    (h : pathUser params = .error e) : ∃ message, e = invalidPath message := by
  rw [pathUser] at h
  split at h
  · split at h
    · split at h
      · exact ⟨_, (Except.error.inj h).symm⟩
      · cases h
    · exact ⟨_, (Except.error.inj h).symm⟩
  · exact ⟨_, (Except.error.inj h).symm⟩

theorem caller_attached_of_id (h : v.caller.id ≠ 0) :
    (⟨some v.caller⟩ : Context).caller = .ok v.caller := by
  have hRole : v.caller.role ≠ "" := roleOrUser_ne_empty v.request.headers
  rw [Context.caller_attached, if_neg (not_or.mpr ⟨h, hRole⟩)]

theorem errorOf_ensureAccess {user : UserId} (h : v.operation.isOnPathUser = true)
    (hUser : pathUser v.params = .ok user) :
    errorOf ((ensureAccess v.caller user).mapError .api) = v.failure? .ownership := by
  rw [Visit.failure?, h, hUser, errorOf_mapError, ensureAccess]
  by_cases hAccess : v.caller.canAccess user = true
  · simp [hAccess, failIf, Except.toOption]
  · simp [hAccess, failIf, Except.toOption]

section Bodies

variable {α ε : Type} {shape : Json.Shape α} {validate : α → Except ε Unit} {message : ε → String}

theorem errorOf_rules {content : α}
    (h : v.operation.form? = some (.of shape validate message))
    (hRead : shape.read v.request.body = .ok content) :
    errorOf ((validate content).mapError fun e => .api (validationError (message e))) =
      v.failure? .rules := by
  rw [errorOf_mapError, Visit.failure?, h, Option.bind_some, Visit.brokenRule?, BodyForm.of]
  simp only [hRead, Option.map_map]
  rfl

/-- What has to be checked for a task that a body is read for, and no more. -/
theorem errorOf_ofBody (task : α → Task)
    (h : v.operation.form? = some (.of shape validate message)) :
    errorOf (do
      let content ← (readBody shape v.facilities.settings.bodyLimit.toNat v.request).mapError
        Failure.rejected
      (validate content).mapError fun e => .api (validationError (message e))
      return task content) =
    (v.firstFailure Check.onBody).or (v.failure? .rules) := by
  refine errorOf_bind ?_ fun content hContent => ?_
  · rw [errorOf_mapError]
    exact errorOf_readBody h
  · have hRead := (readBody_ok_iff.mp (Except.mapError_ok_iff.mp hContent)).2
    rw [← errorOf_rules h hRead]
    exact errorOf_bind_ok _ _

end Bodies

theorem errorOf_onPathUser {between : Option Failure} (next : UserId → Except Failure Task)
    (h : v.operation.isOnPathUser = true)
    (hNext : ∀ user, pathUser v.params = .ok user → errorOf (next user) = between) :
    errorOf ((pathUser v.params).mapError .api >>= next) =
      (v.failure? .pathUser).or between := by
  refine errorOf_bind ?_ fun user hUser => hNext user (Except.mapError_ok_iff.mp hUser)
  rw [Visit.failure?, if_pos h, errorOf_mapError]

theorem errorOf_ofPath (task : UserId → Task) (h : v.operation.isOnPathUser = true) :
    errorOf (do
      let user ← (pathUser v.params).mapError Failure.api
      (ensureAccess v.caller user).mapError .api
      return task user) =
    (v.failure? .pathUser).or (v.failure? .ownership) := by
  refine errorOf_onPathUser _ h fun user hUser => ?_
  rw [← errorOf_ensureAccess h hUser]
  exact errorOf_bind_ok _ _

theorem failure?_of_not_onPathUser (h : v.operation.isOnPathUser = false) :
    v.failure? .pathUser = none ∧ v.failure? .ownership = none := by
  simp [Visit.failure?, h, failIf]

theorem failure?_listQuery_of_ne (h : v.operation ≠ .listUsers) :
    v.failure? .listQuery = none := by
  simp [Visit.failure?, h, failIf]

theorem firstFailure_of_form_none (h : v.operation.form? = none)
    (hList : v.operation ≠ .listUsers) :
    v.firstFailure Check.onTask = (v.failure? .pathUser).or (v.failure? .ownership) := by
  have hQuery := failure?_listQuery_of_ne hList
  have hBody : v.firstFailure Check.onBody = none := by
    simp [Check.onBody, Visit.failure?, h, failIf]
  have hRules : v.failure? .rules = none := by simp [Visit.failure?, h]
  rw [Check.onTask, Visit.firstFailure_append, Visit.firstFailure_append]
  simp [hQuery, hBody, hRules]

theorem firstFailure_of_form {form : BodyForm} (h : v.operation.form? = some form) :
    v.firstFailure Check.onTask =
      (v.failure? .pathUser).or ((v.firstFailure Check.onBody).or
        ((v.failure? .ownership).or (v.failure? .rules))) := by
  have hList : v.operation ≠ .listUsers := by
    intro hOp
    rw [hOp] at h
    cases h
  rw [Check.onTask, Visit.firstFailure_append, Visit.firstFailure_append]
  simp [failure?_listQuery_of_ne hList, Option.or_assoc]

/-- For an operation on nobody in the path only the body counts. -/
theorem firstFailure_of_form_only {form : BodyForm} (h : v.operation.form? = some form)
    (hPath : v.operation.isOnPathUser = false) :
    v.firstFailure Check.onTask = (v.firstFailure Check.onBody).or (v.failure? .rules) := by
  obtain ⟨hUser, hOwn⟩ := failure?_of_not_onPathUser hPath
  rw [firstFailure_of_form h, hUser, hOwn, Option.none_or, Option.none_or]

/-- The checks of an operation are made in order. -/
theorem errorOf_ofRequest (hId : v.caller.id ≠ 0) :
    errorOf (Task.ofRequest v.operation v.facilities.settings.bodyLimit.toNat ⟨some v.caller⟩
      v.params v.request) = v.firstFailure Check.onTask := by
  have hCaller := caller_attached_of_id hId
  cases hOp : v.operation with
  | health =>
    have hPath : v.operation.isOnPathUser = false := by rw [hOp]; rfl
    obtain ⟨hUser, hOwn⟩ := failure?_of_not_onPathUser hPath
    rw [firstFailure_of_form_none (by rw [hOp]; rfl) (by simp [hOp]), hUser, hOwn]
    rfl
  | me =>
    have hPath : v.operation.isOnPathUser = false := by rw [hOp]; rfl
    obtain ⟨hUser, hOwn⟩ := failure?_of_not_onPathUser hPath
    rw [firstFailure_of_form_none (by rw [hOp]; rfl) (by simp [hOp]), hUser, hOwn,
      Task.ofRequest, hCaller]
    rfl
  | listUsers =>
    have hQuery : v.firstFailure Check.onTask = v.failure? .listQuery := by
      simp [Check.onTask, Check.onBody, Visit.failure?, hOp, Operation.isOnPathUser,
        Operation.form?, failIf]
    rw [hQuery, Visit.failure?, hOp, Task.ofRequest]
    cases ListQuery.parse? v.request.target.query <;> rfl
  | getUser =>
    rw [firstFailure_of_form_none (by rw [hOp]; rfl) (by simp [hOp]), Task.ofRequest, hCaller]
    exact errorOf_ofPath .showUser (by rw [hOp]; rfl)
  | deleteUser =>
    rw [firstFailure_of_form_none (by rw [hOp]; rfl) (by simp [hOp]), Task.ofRequest, hCaller]
    exact errorOf_ofPath .deleteUser (by rw [hOp]; rfl)
  | createUser =>
    have hForm : v.operation.form? =
        some (.of CreateUser.shape CreateUser.validate Users.RequestError.message) := by
      rw [hOp]
      rfl
    rw [firstFailure_of_form_only hForm (by rw [hOp]; rfl), Task.ofRequest, hCaller]
    exact errorOf_ofBody _ hForm
  | issueTokens =>
    have hForm : v.operation.form? =
        some (.of IssueTokens.shape IssueTokens.validate Token.RequestError.message) := by
      rw [hOp]
      rfl
    rw [firstFailure_of_form_only hForm (by rw [hOp]; rfl), Task.ofRequest, hCaller]
    exact errorOf_ofBody _ hForm
  | updateUser =>
    -- The body is read between the two checks on the user in the path.
    have hPath : v.operation.isOnPathUser = true := by rw [hOp]; rfl
    have hForm : v.operation.form? =
        some (.of UpdateUser.shape UpdateUser.validate Users.RequestError.message) := by
      rw [hOp]
      rfl
    rw [firstFailure_of_form hForm, Task.ofRequest, hCaller]
    refine errorOf_onPathUser _ hPath fun user hUser => ?_
    refine errorOf_bind ?_ fun u hBody => errorOf_bind (errorOf_ensureAccess hPath hUser) ?_
    · rw [errorOf_mapError]
      exact errorOf_readBody hForm
    · intro _ _
      rw [← errorOf_rules hForm (readBody_ok_iff.mp (Except.mapError_ok_iff.mp hBody)).2]
      exact errorOf_bind_ok _ _

end Gatehouse.Service
