import Gatehouse.Proofs.Json.Compact
import Gatehouse.Proofs.Service.Bodies
import Gatehouse.Proofs.Service.ResponseHeaders
import Gatehouse.Proofs.Service.Statements
import Gatehouse.Proofs.Service.UserRecords
import Gatehouse.Proofs.Users.Request

/-! What is written into the records of users.  A statement that creates or updates a user binds
the fields that the body of the request gives, trimmed.  They are in normal form, so a request that
gives just what was bound is accepted again and runs the same statement. -/

namespace Gatehouse.Service

open Identity Json Json.Token Text Users Web

/-- The fields that a statement binds, if it writes the record of a user. -/
def Statement.fields? : Statement → Option UpdateUser
  | .createUser name email => some ⟨some name, some email⟩
  | .updateUser _ name email => some ⟨name, email⟩
  | .getUser _ | .deleteUser _ | .listUsers .. | .rolesOf _ => none

/-! ### Bodies -/

/-- The body gives these fields, in one of the ways in which they are given for the statement. -/
def Statement.Reads (given : UpdateUser) (body : List UInt8) : Statement → Prop
  | .createUser .. => ∃ r : CreateUser, r.toUpdate = given ∧ Alone (CreateUserText r) body
  | .updateUser .. => Alone (UpdateUserText given) body
  | .getUser _ | .deleteUser _ | .listUsers .. | .rolesOf _ => False

/-- The compact text of a record with these fields. -/
def bodyOf (fields : UpdateUser) : List UInt8 :=
  Utf8.encode (Json.record [("name", Statement.textParameter fields.name),
    ("email", Statement.textParameter fields.email)]).compact

theorem createUser_read_iff {r : CreateUser} {body : List UInt8} :
    CreateUser.shape.read body = .ok r ↔ Alone (CreateUserText r) body := by
  rw [read_eq_ok_iff]
  exact alone_congr fun _ => createUserText_iff.symm

theorem updateUser_read_iff {r : UpdateUser} {body : List UInt8} :
    UpdateUser.shape.read body = .ok r ↔ Alone (UpdateUserText r) body := by
  rw [read_eq_ok_iff]
  exact alone_congr fun _ => updateUserText_iff.symm

/-- The token of a text that may be missing. -/
def textToken (s : Option String) : Token := (s.map fun s => .text (escaped s)).getD .null

theorem toTokens_textParameter (s : Option String) :
    (Statement.textParameter s).toTokens = [textToken s] := by
  cases s <;> simp [Statement.textParameter, textToken, toTokens]

theorem tokens_bodyOf (fields : UpdateUser) :
    tokens (bodyOf fields) =
      [.openRecord, .text (escaped "name"), .colon, textToken fields.name, .comma,
        .text (escaped "email"), .colon, textToken fields.email, .closeRecord] := by
  have hTokens := tokens_compact [] nofun
    (Json.record [("name", Statement.textParameter fields.name),
      ("email", Statement.textParameter fields.email)])
  rw [List.append_nil, tokens_nil, List.append_nil] at hTokens
  rw [bodyOf, hTokens]
  simp [toTokens, memberTokens, toTokens_textParameter]

/-- Both shapes have the two fields, and take the one text for both of them. -/
theorem record_bodyOf (given : UpdateUser) {kind : FieldKind} {name email : FieldValue}
    (hName : ∀ rest, Reader.value kind (textToken given.name :: rest) = .ok (name, rest))
    (hEmail : ∀ rest, Reader.value kind (textToken given.email :: rest) = .ok (email, rest)) :
    Reader.record [{ key := "name", kind }, { key := "email", kind }] (tokens (bodyOf given)) =
      .ok ([("email", email), ("name", name)], []) := by
  rw [tokens_bodyOf]
  simp [Reader.record, Reader.members, Reader.member, Reader.colon, unescape?_escaped, hName,
    hEmail, bind, Except.bind, pure, Except.pure]

theorem createUser_read_bodyOf (r : CreateUser) :
    CreateUser.shape.read (bodyOf r.toUpdate) = .ok r := by
  have hValue : ∀ s rest, Reader.value .text (textToken (some s) :: rest) =
      .ok (.text s, rest) := fun s rest => by
    simp [Reader.value, Reader.text, textToken, unescape?_escaped, Except.map]
  have hRecord := record_bodyOf r.toUpdate (hValue r.name) (hValue r.email)
  rw [Shape.read]
  simp only [CreateUser.shape, hRecord]
  rfl

theorem updateUser_read_bodyOf (r : UpdateUser) :
    UpdateUser.shape.read (bodyOf r) = .ok r := by
  have hValue : ∀ s rest, Reader.value .textOrNull (textToken s :: rest) =
      .ok ((s.map FieldValue.text).getD .null, rest) := fun s rest => by
    cases s <;> simp [Reader.value, Reader.text, textToken, unescape?_escaped, Except.map]
  have hRecord := record_bodyOf r (hValue r.name) (hValue r.email)
  obtain ⟨name, email⟩ := r
  rw [Shape.read]
  simp only [UpdateUser.shape, hRecord]
  cases name <;> cases email <;> rfl

/-- Whatever fields a statement may bind, there is a body that gives them. -/
theorem reads_bodyOf {statement : Statement} {bound : UpdateUser}
    (h : statement.fields? = some bound) : statement.Reads bound (bodyOf bound) := by
  cases statement with
  | createUser name email =>
    cases h
    exact ⟨⟨name, email⟩, rfl, createUser_read_iff.mp (createUser_read_bodyOf ⟨name, email⟩)⟩
  | updateUser user name email =>
    cases h
    exact updateUser_read_iff.mp (updateUser_read_bodyOf ⟨name, email⟩)
  | _ => cases h

/-! ### From a request to the statement -/

section Tasks

variable {op : Operation} {limit : Nat} {c : Context} {params : List (String × List UInt8)}
  {r : Request}

theorem ofRequest_createUser_iff {name email : String} :
    Task.ofRequest op limit c params r = .ok (.createUser name email) ↔
      op = .createUser ∧ (∃ p, c.caller = .ok p) ∧ r.BodyIsRead limit ∧
        ∃ given, CreateUser.shape.read r.body = .ok given ∧ given.validate = .ok () ∧
          given.toUpdate.trimmed = ⟨some name, some email⟩ := by
  constructor
  · intro h
    have hYields := yields_of_ofRequest h
    cases op with
    | createUser =>
      simp only [Task.ofRequest, Except.bind_ok_iff, Except.mapError_ok_iff,
        Except.pure_ok_iff] at h
      obtain ⟨p, hCaller, given, hBody, _, hValid, hTask⟩ := h
      cases hTask
      obtain ⟨hIsRead, hRead⟩ := readBody_ok_iff.mp hBody
      exact ⟨rfl, ⟨p, hCaller⟩, hIsRead, given, hRead, hValid, rfl⟩
    | _ => exact hYields.elim
  · rintro ⟨rfl, ⟨p, hCaller⟩, hIsRead, given, hRead, hValid, hTrimmed⟩
    cases hTrimmed
    simp only [Task.ofRequest, Except.bind_ok_iff, Except.mapError_ok_iff, Except.pure_ok_iff]
    exact ⟨p, hCaller, given, readBody_ok_iff.mpr ⟨hIsRead, hRead⟩, (), hValid, rfl⟩

theorem ofRequest_updateUser_iff {user : UserId} {name email : Option String} :
    Task.ofRequest op limit c params r = .ok (.updateUser user name email) ↔
      op = .updateUser ∧ (pathUser params = .ok user ∧
        ∃ p, c.caller = .ok p ∧ p.canAccess user = true) ∧ r.BodyIsRead limit ∧
        ∃ given, UpdateUser.shape.read r.body = .ok given ∧ given.validate = .ok () ∧
          given.trimmed = ⟨name, email⟩ := by
  constructor
  · intro h
    have hYields := yields_of_ofRequest h
    cases op with
    | updateUser =>
      simp only [Task.ofRequest, Except.bind_ok_iff, Except.mapError_ok_iff,
        Except.pure_ok_iff] at h
      obtain ⟨p, hCaller, user, hUser, given, hBody, _, hAccess, _, hValid, hTask⟩ := h
      cases hTask
      obtain ⟨hIsRead, hRead⟩ := readBody_ok_iff.mp hBody
      exact ⟨rfl, ⟨hUser, p, hCaller, ensureAccess_ok_iff.mp hAccess⟩, hIsRead, given, hRead,
        hValid, rfl⟩
    | _ => exact hYields.elim
  · rintro ⟨rfl, ⟨hUser, p, hCaller, hAccess⟩, hIsRead, given, hRead, hValid, hTrimmed⟩
    cases hTrimmed
    simp only [Task.ofRequest, Except.bind_ok_iff, Except.mapError_ok_iff, Except.pure_ok_iff]
    exact ⟨p, hCaller, user, hUser, given, readBody_ok_iff.mpr ⟨hIsRead, hRead⟩, (),
      ensureAccess_ok_iff.mpr hAccess, (), hValid, rfl⟩

/-- What an operation needs beside the body to write the record of a user: a caller, and for an
update the user in the path, whom the caller may access. -/
def Statement.Permitted (op : Operation) (c : Context) (params : List (String × List UInt8)) :
    Statement → Prop
  | .createUser .. => op = .createUser ∧ ∃ p, c.caller = .ok p
  | .updateUser user .. =>
    op = .updateUser ∧ pathUser params = .ok user ∧
      ∃ p, c.caller = .ok p ∧ p.canAccess user = true
  | .getUser _ | .deleteUser _ | .listUsers .. | .rolesOf _ => False

variable {task : Task} {statement : Statement} {bound : UpdateUser}

/-- The body of a request counts by the fields that it gives.  They are checked as they are, and
bound without the blanks around them. -/
theorem ofRequest_ok_iff (hStatement : task.statement? = some statement)
    (hBound : statement.fields? = some bound) :
    Task.ofRequest op limit c params r = .ok task ↔
      statement.Permitted op c params ∧ r.BodyIsRead limit ∧
        ∃ given, statement.Reads given r.body ∧ given.validate = .ok () ∧
          given.trimmed = bound := by
  cases task with
  | updateUser user name email =>
    cases hStatement
    cases hBound
    rw [ofRequest_updateUser_iff, ← and_assoc]
    simp only [updateUser_read_iff]
    rfl
  | createUser name email =>
    cases hStatement
    cases hBound
    rw [ofRequest_createUser_iff, ← and_assoc]
    simp only [createUser_read_iff, ← CreateUser.toUpdate_validate_ok_iff]
    refine and_congr_right fun _ => and_congr_right fun _ => ?_
    constructor
    · rintro ⟨given, hText, hAccepted⟩
      exact ⟨given.toUpdate, ⟨given, rfl, hText⟩, hAccepted⟩
    · rintro ⟨_, ⟨given, rfl, hText⟩, hAccepted⟩
      exact ⟨given, hText, hAccepted⟩
  | _ => cases hStatement <;> cases hBound

end Tasks

theorem offer_createUser : ∀ route ∈ routes, ∀ offer ∈ route.operations, offer.2 = .createUser →
    offer.1 = "POST" ∧ route.template = [literal "/api/v1/admin/users"] := by decide

theorem offer_updateUser : ∀ route ∈ routes, ∀ offer ∈ route.operations, offer.2 = .updateUser →
    offer.1 = "PUT" ∧ ∃ base ∈ ["/api/v1/users/", "/api/v1/admin/users/"],
      route.template = [literal base, .segment "user_id"] := by decide

/-- The request asks for the statement by its method and its path. -/
def Request.AsksFor (r : Request) : Statement → Prop
  | .createUser .. => r.method = "POST" ∧ r.target.path = Utf8.encode "/api/v1/admin/users"
  | .updateUser user .. =>
    r.method = "PUT" ∧ ∃ segment, pathUser [("user_id", segment)] = .ok user ∧
      (r.target.path = userPath segment ∨ r.target.path = adminPath segment)
  | .getUser _ | .deleteUser _ | .listUsers .. | .rolesOf _ => False

/-- Another request with a body of its own, for the same target and from the same caller. -/
structure Request.Repeats (settings : Settings) (r again : Request) : Prop where
  method : again.method = r.method
  target : again.target = r.target
  caller : settings.gatewayPolicy.extract again.headers again.peer =
    settings.gatewayPolicy.extract r.headers r.peer
  reaches : again.ReachesRouter settings
  body : again.BodyIsRead settings.bodyLimit.toNat

variable {settings : Settings} {r again : Request} {task : Task} {statement : Statement}
  {bound : UpdateUser}

theorem asksFor_of_plan (hPlan : plan settings r = .task task)
    (hStatement : task.statement? = some statement) (hBound : statement.fields? = some bound) :
    r.AsksFor statement := by
  obtain ⟨route, params, c, op, hRoute, -, hOp, hTask⟩ := plan_eq_task_iff.mp hPlan
  obtain ⟨hPermitted, -⟩ := (ofRequest_ok_iff hStatement hBound).mp hTask
  cases statement with
  | createUser name email =>
    obtain ⟨rfl, -⟩ := hPermitted
    obtain ⟨hMethod, hPath⟩ := asked_at offer_createUser hRoute hOp
    exact ⟨eq_of_method hMethod (by decide), hPath⟩
  | updateUser user name email =>
    obtain ⟨rfl, hUser, -⟩ := hPermitted
    obtain ⟨hMem, hParams⟩ := findRoute_eq_some hRoute
    obtain ⟨hMethod, base, hBase, hTemplate⟩ := offer_updateUser route hMem _ (offer_mem hOp) rfl
    rw [Route.params?, hTemplate] at hParams
    obtain ⟨segment, hPath, rfl⟩ := eq_of_segment_template hParams
    refine ⟨eq_of_method hMethod (by decide), segment, hUser, ?_⟩
    rcases List.mem_pair.mp hBase with rfl | rfl
    · exact .inl hPath
    · exact .inr hPath
  | _ => cases hBound

theorem plan_again (hPlan : plan settings r = .task task)
    (hStatement : task.statement? = some statement) (hBound : statement.fields? = some bound)
    (hRepeats : r.Repeats settings again) (hNormal : bound.IsNormal)
    (hReads : statement.Reads bound again.body) : plan settings again = .task task := by
  obtain ⟨route, params, c, op, hRoute, hPass, hOp, hTask⟩ := plan_eq_task_iff.mp hPlan
  obtain ⟨hPermitted, -⟩ := (ofRequest_ok_iff hStatement hBound).mp hTask
  obtain ⟨hValid, hTrimmed⟩ := UpdateUser.isNormal_iff.mp hNormal
  refine plan_eq_task_iff.mpr ⟨route, params, c, op, ?_, ?_, ?_, ?_⟩
  · rw [hRepeats.target, hRoute]
  · rw [route.pass_congr (congrArg _ hRepeats.target) hRepeats.caller, hPass]
  · rw [hRepeats.method, hOp]
  · exact (ofRequest_ok_iff hStatement hBound).mpr
      ⟨hPermitted, hRepeats.body, bound, hReads, hValid, hTrimmed⟩

variable {σ : Type} (respond : (q : Call) → σ → Option q.Answer × σ)

/-- A task that writes the record of a user makes no other call. -/
theorem asked_write (f : Facilities) (hStatement : task.statement? = some statement)
    (hBound : statement.fields? = some bound) (s : σ) :
    (perform f task).asked respond s = [.statement statement] := by
  cases task with
  | updateUser user name email =>
    cases hStatement
    exact asked_query respond _ _ s
  | createUser name email =>
    cases hStatement
    refine Dialogue.asked_question respond _ _ s fun reply => ?_
    split
    · exact ⟨_, rfl⟩
    · exact ⟨_, rfl⟩
  | _ => cases hStatement <;> cases hBound

theorem calls_of_plan (hPlan : plan settings r = .task task) (hReaches : r.ReachesRouter settings)
    (hStatement : task.statement? = some statement) (hBound : statement.fields? = some bound)
    (opened : Bool) (stamp : Token.Stamp) (newId : String) (s : σ) :
    (attend respond settings opened ⟨r, stamp, newId⟩ s).1.calls = [.statement statement] := by
  have hHandle := handle_eq ⟨settings, opened, stamp⟩ newId r hReaches.within_limit
    hReaches.not_options
  rw [hPlan, carryOut] at hHandle
  simp only [attend, hHandle, Dialogue.asked_map]
  exact asked_write respond _ hStatement hBound s

/-- Both checks accept the same names and e-mail addresses, each field for itself.  In every run of
the service what a statement writes about a user are the fields of the request, trimmed: they are
in normal form, and whoever submits them again has the same statement run. -/
theorem serve_writes_normal_form (settings : Settings) (cacheOpened : Bool)
    (arrivals : List Arrival) (s : σ) :
    (∀ name email,
      ((CreateUser.mk name email).validate = .ok () ↔
        (UpdateUser.mk (some name) (some email)).validate = .ok ()) ∧
      ((CreateUser.mk name email).validate = .ok () ↔ IsName name ∧ IsEmail email) ∧
      ((UpdateUser.mk (some name) none).validate = .ok () ↔ IsName name) ∧
      ((UpdateUser.mk none (some email)).validate = .ok () ↔ IsEmail email) ∧
      (UpdateUser.mk none none).validate = .ok ()) ∧
    ∀ turn ∈ serve respond settings cacheOpened arrivals s, ∀ statement bound,
      .statement statement ∈ turn.calls → statement.fields? = some bound →
        turn.request.AsksFor statement ∧
        (∃ given, statement.Reads given turn.request.body ∧ bound = given.trimmed) ∧
        bound.IsNormal ∧
        statement.Reads bound (bodyOf bound) ∧
        ∀ again, turn.request.Repeats settings again → statement.Reads bound again.body →
          ∀ stamp newId s',
            (attend respond settings cacheOpened ⟨again, stamp, newId⟩ s').1.calls =
              [.statement statement] := by
  refine ⟨fun name email => ?_, ?_⟩
  · simp only [CreateUser.validate_ok_iff, UpdateUser.validate_ok_iff]
    simp
  refine forall_serve respond (fun a s statement bound hMem hBound => ?_) arrivals s
  obtain ⟨task, hPlan, hStatement⟩ := task_of_statement respond hMem
  obtain ⟨route, params, c, op, -, -, -, hTask⟩ := plan_eq_task_iff.mp hPlan
  obtain ⟨-, -, given, hReads, hValid, rfl⟩ := (ofRequest_ok_iff hStatement hBound).mp hTask
  have hNormal := UpdateUser.isNormal_trimmed hValid
  refine ⟨asksFor_of_plan hPlan hStatement hBound, ⟨given, hReads, rfl⟩, hNormal,
    reads_bodyOf hBound, fun again hRepeats hAgain stamp newId s' => ?_⟩
  exact calls_of_plan respond (plan_again hPlan hStatement hBound hRepeats hNormal hAgain)
    hRepeats.reaches hStatement hBound cacheOpened stamp newId s'

/-- User 7 changes their own record, with a body that gives these fields. -/
def changes (fields : UpdateUser) : Arrival where
  request :=
    ⟨"PUT", ⟨userPath (Utf8.encode "7"), none⟩,
      [Response.header "x-user-id" "7", Response.header "x-user-role" "user",
        Response.header "content-type" "application/json"], bodyOf fields, none, ""⟩
  stamp := ⟨0, 1, "a", "r"⟩
  newId := "id"

theorem plan_changes (given : UpdateUser) (hFits : (bodyOf given).length ≤ 1048576)
    (hValid : given.validate = .ok ()) :
    plan cachedSettings (changes given).request =
      .task (.updateUser 7 given.trimmed.name given.trimmed.email) := by
  have hRoute : findRoute (changes given).request.target.path =
      some (recordRoute "/api/v1/users/" .users, [("user_id", Utf8.encode "7")]) := by rfl
  have hPass : (recordRoute "/api/v1/users/" .users).pass cachedSettings.gatewayPolicy
      [("user_id", Utf8.encode "7")] (changes given).request = .ok ⟨some ⟨7, "user"⟩⟩ := by rfl
  have hUser : pathUser [("user_id", Utf8.encode "7")] = .ok 7 := by rfl
  exact plan_eq_task_iff.mpr ⟨_, _, _, .updateUser, hRoute, hPass, rfl,
    ofRequest_updateUser_iff.mpr ⟨rfl, ⟨hUser, ⟨7, "user"⟩, rfl, rfl⟩, ⟨rfl, hFits⟩, given,
      updateUser_read_bodyOf given, hValid, rfl⟩⟩

theorem calls_changes (given : UpdateUser) (hFits : (bodyOf given).length ≤ 1048576)
    (hValid : given.validate = .ok ()) (s : Backend) :
    (attend Backend.respond cachedSettings true (changes given) s).1.calls =
      [.statement (.updateUser 7 given.trimmed.name given.trimmed.email)] :=
  calls_of_plan _ (plan_changes given hFits hValid) ⟨rfl, (by decide : "PUT" ≠ "OPTIONS")⟩ rfl rfl
    _ _ _ _

theorem padded_name_bound_again :
    ∃ turn ∈ serve Backend.respond cachedSettings true [changes ⟨some " Ada\u00a0", none⟩]
        (.start [] (.ofEntries [])),
      turn.calls = [.statement (.updateUser 7 (some "Ada") none)] ∧
      (attend Backend.respond cachedSettings true (changes ⟨some "Ada", none⟩)
        (.start [] (.ofEntries []))).1.calls = [.statement (.updateUser 7 (some "Ada") none)] := by
  have hTrimmed : (UpdateUser.mk (some " Ada\u00a0") none).trimmed = ⟨some "Ada", none⟩ := by
    decide +kernel
  have hCalls := calls_changes ⟨some " Ada\u00a0", none⟩ (by decide +kernel)
    (by decide +kernel) (.start [] (.ofEntries []))
  rw [hTrimmed] at hCalls
  have hMem := hCalls ▸ List.mem_cons_self
  refine ⟨_, List.mem_cons_self, hCalls, ?_⟩
  obtain ⟨-, -, -, hText, hAgain⟩ := (serve_writes_normal_form Backend.respond cachedSettings true
    [changes ⟨some " Ada\u00a0", none⟩] (.start [] (.ofEntries []))).2 _ List.mem_cons_self _ _
    hMem rfl
  exact hAgain (changes ⟨some "Ada", none⟩).request
    ⟨rfl, rfl, rfl, ⟨rfl, (by decide : "PUT" ≠ "OPTIONS")⟩, ⟨rfl, by decide +kernel⟩⟩ hText _ _ _

end Gatehouse.Service
