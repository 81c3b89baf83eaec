import Gatehouse.Proofs.Screen.Signature
import Gatehouse.Proofs.Service.Runs
import Gatehouse.Proofs.Service.Stages
import Gatehouse.Proofs.Service.Tasks
import Gatehouse.Proofs.Web.Form

/-! The ways to the record of a user.  An administrator reaches a record on the path for users and
on the one for administrators, and callers reach their own without a number or with their number in
any spelling.  It makes no difference which way a request takes. -/

namespace Gatehouse.Service

open Identity Screen Text Web

/-! ### Routes to records -/

section Routes

variable {segment : List UInt8}

/-- A parameter for a segment takes all that is left of the path if no slash is in it. -/
theorem rawParams?_segment {base : List UInt8} {name : String} (hSlash : 0x2F ∉ segment) :
    Template.rawParams? [.literal base, .segment name] (base ++ segment) =
      if segment = [] then none else some [(name, segment)] := by
  have hStrip : Template.stripLiteral base (base ++ segment) = some segment :=
    Template.stripLiteral_eq_some_iff.mpr rfl
  have hAll : ∀ b ∈ segment, (b != 0x2F) = true := fun b hb => by
    simpa using fun hSame : b = 0x2F => hSlash (hSame ▸ hb)
  have hSpan : segment.span (· != 0x2F) = (segment, []) := by
    rw [List.span_eq_takeWhile_dropWhile, List.takeWhile_eq_self_iff.mpr hAll,
      List.dropWhile_eq_nil_iff.mpr hAll]
  simp only [Template.rawParams?, hStrip, Option.bind_some, hSpan]
  cases segment <;> rfl

/-- Whatever fits such a template is its text with a segment behind it. -/
theorem eq_of_segment_template {bytes path : List UInt8} {name : String}
    {params : List (String × List UInt8)}
    (h : Template.rawParams? [.literal bytes, .segment name] path = some params) :
    ∃ segment, path = bytes ++ segment ∧ params = [(name, segment)] := by
  rw [Template.rawParams?] at h
  obtain ⟨segment, hSegment, hEnd⟩ := Option.bind_eq_some_iff.mp h
  refine ⟨segment, Template.stripLiteral_eq_some_iff.mp hSegment, ?_⟩
  rw [Template.rawParams?, List.span_eq_takeWhile_dropWhile] at hEnd
  split at hEnd
  · cases hEnd
  · rename_i value rest _ hCut
    obtain ⟨more, hMore, rfl⟩ := Option.map_eq_some_iff.mp hEnd
    cases rest with
    | cons b rest => cases hMore
    | nil =>
      cases hMore
      -- Nothing stands behind the segment, so it takes all that is left of the path.
      obtain ⟨hValue, hRest⟩ := Prod.mk.inj hCut
      rw [← hValue, List.takeWhile_eq_self_iff.mpr (List.dropWhile_eq_nil_iff.mp hRest)]

/-- The route of a group to the records of users. -/
def recordRoute (base : String) (group : Group) : Route :=
  ⟨[literal base, .segment "user_id"], group, userOperations⟩

@[simp] theorem recordRoute_operation? (base : String) (group : Group) (method : String) :
    (recordRoute base group).operation? method =
      userOperations.lookup (if method == "HEAD" then "GET" else method) := rfl

@[simp] theorem recordRoute_methods (base : String) (group : Group) :
    (recordRoute base group).methods = ["GET", "HEAD", "PUT", "DELETE"] := rfl

/-- The route to the caller's own record. -/
def ownRoute : Route := ⟨[literal "/api/v1/users/me"], .users, [("GET", .me)]⟩

def userPath (segment : List UInt8) : List UInt8 := Utf8.encode "/api/v1/users/" ++ segment

def adminPath (segment : List UInt8) : List UInt8 := Utf8.encode "/api/v1/admin/users/" ++ segment

def ownPath : List UInt8 := userPath (Utf8.encode "me")

theorem findRoute_ownPath : findRoute ownPath = some (ownRoute, []) := by rfl

theorem findRoute_record (before after : List Route) {base : String} {group : Group}
    (hTable : routes = before ++ recordRoute base group :: after)
    (hBefore : ∀ route ∈ before, route.params? (Utf8.encode base ++ segment) = none)
    (hSlash : 0x2F ∉ segment) (hNonempty : segment ≠ []) :
    findRoute (Utf8.encode base ++ segment) =
      some (recordRoute base group, [("user_id", segment)]) := by
  have hOwn : (recordRoute base group).params? (Utf8.encode base ++ segment) =
      some [("user_id", segment)] :=
    (rawParams?_segment hSlash).trans (if_neg hNonempty)
  refine List.findSome?_eq_some_iff.mpr ⟨before, _, after, hTable, ?_, ?_⟩
  · rw [hOwn]
    rfl
  · intro route hRoute
    rw [hBefore route hRoute]
    rfl

theorem findRoute_userPath (hSlash : 0x2F ∉ segment) (hMe : segment ≠ Utf8.encode "me")
    (hNonempty : segment ≠ []) :
    findRoute (userPath segment) =
      some (recordRoute "/api/v1/users/" .users, [("user_id", segment)]) := by
  have hOwn : ownRoute.params? (userPath segment) = none :=
    Option.eq_none_iff_forall_ne_some.mpr fun _ hParams =>
      hMe (List.append_cancel_left (eq_of_literal_template hParams))
  refine findRoute_record (routes.take 3) (routes.drop 4) rfl ?_ hSlash hNonempty
  exact List.forall_mem_cons.mpr ⟨rfl, List.forall_mem_cons.mpr
    ⟨rfl, List.forall_mem_singleton.mpr hOwn⟩⟩

theorem findRoute_adminPath (hSlash : 0x2F ∉ segment) (hNonempty : segment ≠ []) :
    findRoute (adminPath segment) =
      some (recordRoute "/api/v1/admin/users/" .admin, [("user_id", segment)]) := by
  refine findRoute_record (routes.take 5) (routes.drop 6) rfl ?_ hSlash hNonempty
  exact List.forall_mem_cons.mpr ⟨rfl, List.forall_mem_cons.mpr ⟨rfl, List.forall_mem_cons.mpr
    ⟨rfl, List.forall_mem_cons.mpr ⟨rfl, List.forall_mem_singleton.mpr rfl⟩⟩⟩⟩

end Routes

/-! ### A request on two paths -/

/-- The same request for another path. -/
def Request.withPath (r : Request) (path : List UInt8) : Request :=
  { r with target := { r.target with path } }

section WithPath

variable (r : Request) (path : List UInt8)

@[simp] theorem withPath_method : (r.withPath path).method = r.method := rfl

@[simp] theorem withPath_path : (r.withPath path).target.path = path := rfl

/-- The layers depend on the path by its parameters only. -/
@[simp] theorem pass_withPath (route : Route) (policy : GatewayPolicy)
    (params : List (String × List UInt8)) :
    route.pass policy params (r.withPath path) = route.pass policy params r := rfl

/-- The task of an operation depends on the path by its parameters only. -/
@[simp] theorem ofRequest_withPath (op : Operation) (limit : Nat) (c : Context)
    (params : List (String × List UInt8)) :
    Task.ofRequest op limit c params (r.withPath path) = Task.ofRequest op limit c params r := by
  cases op <;> rfl

end WithPath

variable {f : Facilities} {newId : String} {r : Request} {p : Principal}

theorem handle_withPath {path path' : List UInt8}
    (hPlan : plan f.settings (r.withPath path) = plan f.settings (r.withPath path'))
    (hAllow : allowHeaders (r.withPath path) = allowHeaders (r.withPath path'))
    (hBody : leavesOutBody (r.withPath path) = leavesOutBody (r.withPath path')) :
    handle f newId (r.withPath path) = handle f newId (r.withPath path') := by
  have hClose : close newId (r.withPath path) = close newId (r.withPath path') := by
    funext response
    rw [close, close, hAllow, hBody]
    rfl
  have hFinish : finish f newId (r.withPath path) = finish f newId (r.withPath path') := by
    funext response
    rw [finish, finish, hClose]
    rfl
  by_cases hLimit : exceedsLimit f.settings r.headers = true
  · rw [handle_of_exceedsLimit f newId (r.withPath path) hLimit,
      handle_of_exceedsLimit f newId (r.withPath path') hLimit, hClose]
  rw [Bool.not_eq_true] at hLimit
  by_cases hOptions : r.method = "OPTIONS"
  · rw [handle_of_options f newId (r.withPath path) hLimit hOptions,
      handle_of_options f newId (r.withPath path') hLimit hOptions, hClose]
    rfl
  · rw [handle_eq f newId (r.withPath path) hLimit hOptions,
      handle_eq f newId (r.withPath path') hLimit hOptions, hPlan, hFinish]

/-! ### Administrators -/

section Administrators

variable {segment : List UInt8}

theorem allows_of_isAdmin (hAdmin : p.isAdmin = true) :
    RoleGate.admin.allows p.role = true ∧ RoleGate.userOrAdmin.allows p.role = true := by
  have hRole : asciiLower adminRole = asciiLower p.role := (sameUpToCase_iff.mp hAdmin).symm
  exact ⟨RoleGate.allows_iff.mpr ⟨adminRole, List.mem_cons_self, hRole⟩,
    RoleGate.allows_iff.mpr ⟨adminRole, List.mem_cons_of_mem _ List.mem_cons_self, hRole⟩⟩

/-- An administrator gets as far behind one gate as behind the other. -/
theorem pass_record_of_isAdmin {policy : GatewayPolicy}
    (hCaller : policy.extract r.headers r.peer = .ok p) (hAdmin : p.isAdmin = true)
    (base base' : String) (params : List (String × List UInt8)) :
    (recordRoute base .users).pass policy params r =
      (recordRoute base' .admin).pass policy params r := by
  obtain ⟨hAllows, hAllows'⟩ := allows_of_isAdmin hAdmin
  have hUsers : (recordRoute base .users).group.gate? = some .userOrAdmin := rfl
  have hAdmins : (recordRoute base' .admin).group.gate? = some .admin := rfl
  rw [Route.pass_of_gate hUsers, Route.pass_of_gate hAdmins]
  simp only [hCaller, hAllows, hAllows']

theorem handle_record_of_isAdmin
    (hCaller : f.settings.gatewayPolicy.extract r.headers r.peer = .ok p)
    (hAdmin : p.isAdmin = true) (hSlash : 0x2F ∉ segment) (hMe : segment ≠ Utf8.encode "me") :
    handle f newId (r.withPath (userPath segment)) =
      handle f newId (r.withPath (adminPath segment)) := by
  by_cases hEmpty : segment = []
  · -- Without a segment there is no route for either path.
    subst hEmpty
    have hUser : findRoute (userPath []) = none := rfl
    have hOther : findRoute (adminPath []) = none := rfl
    refine handle_withPath ?_ ?_ ?_
    · simp only [plan, withPath_path, hUser, hOther]
    · simp only [allowHeaders, withPath_path, hUser, hOther]
    · simp only [leavesOutBody, withPath_path, withPath_method, hUser, hOther]
  have hUser := findRoute_userPath hSlash hMe hEmpty
  have hOther := findRoute_adminPath hSlash hEmpty
  refine handle_withPath ?_ ?_ ?_
  · have hPass := pass_record_of_isAdmin hCaller hAdmin "/api/v1/users/" "/api/v1/admin/users/"
      [("user_id", segment)]
    simp only [plan, withPath_path, withPath_method, pass_withPath, ofRequest_withPath,
      recordRoute_operation?, hUser, hOther, hPass]
  · simp only [allowHeaders, withPath_path, withPath_method, recordRoute_operation?,
      recordRoute_methods, hUser, hOther]
    rfl
  · simp only [leavesOutBody, withPath_path, withPath_method, hUser, hOther, Option.isSome_some]

end Administrators

/-! ### The caller's own record -/

section Own

variable {digits : String} {user : UserId}

theorem octet_of_digits (h : ∀ c ∈ digits.toList, Decimal.isDigit c = true) {b : UInt8}
    (hb : b ∈ Utf8.encode digits) : 0x30 ≤ b.toNat ∧ b.toNat ≤ 0x39 := by
  obtain ⟨c, hc, hOctet⟩ := List.mem_flatMap.mp hb
  obtain ⟨hLow, hHigh⟩ := Decimal.isDigit_bounds (h c hc)
  rw [Utf8.encodeChar_of_lt (by omega), List.mem_singleton] at hOctet
  rw [hOctet, UInt8.toNat_ofNat']
  omega

theorem decodeParams?_of_digits (h : ∀ c ∈ digits.toList, Decimal.isDigit c = true)
    (name : String) :
    Template.decodeParams? [(name, Utf8.encode digits)] = some [(name, digits)] := by
  have hPercent : 0x25 ∉ Utf8.encode digits := fun hb => absurd (octet_of_digits h hb).1 (by decide)
  have hDecode : Template.decodeParam? (Utf8.encode digits) = some digits := by
    rw [Template.decodeParam?, Percent.decode_of_not_mem hPercent]
    exact Utf8.decode?_encode digits
  simp [Template.decodeParams?, hDecode]

theorem pathUser_of_spells (h : Decimal.Spells digits user.toNat) (hUser : user ≠ 0) :
    pathUser [("user_id", Utf8.encode digits)] = .ok user := by
  rw [pathUser, decodeParams?_of_digits h.digits]
  simp [parseUserId_ok_iff.mpr h, hUser]

/-- Harmless parameters of a path leave the screening to the query. -/
theorem screen_of_harmless {params : List (String × List UInt8)} {decoded : List (String × String)}
    (hDecoded : Template.decodeParams? params = some decoded)
    (hHarmless : ∀ q ∈ decoded, classify q.2 = none) (query : Option (List UInt8)) :
    screen query params = screen query [] := by
  have hNone : firstSuspect decoded = none := firstSuspect_eq_none_iff.mpr hHarmless
  simp only [screen, hDecoded, inspect, hNone]
  rfl

/-- The caller's number in the path makes the same task as no number at all. -/
theorem ofRequest_own (h : Decimal.Spells digits p.id.toNat) (limit : Nat) (r : Request) :
    Task.ofRequest .getUser limit ⟨some p⟩ [("user_id", Utf8.encode digits)] r =
      Task.ofRequest .me limit ⟨some p⟩ [] r := by
  by_cases hNobody : p.id = 0 ∨ p.role = ""
  · simp only [Task.ofRequest, Context.caller_attached, if_pos hNobody]
    rfl
  have hCaller : (⟨some p⟩ : Context).caller = .ok p := by
    rw [Context.caller_attached, if_neg hNobody]
  have hUser := pathUser_of_spells h (not_or.mp hNobody).1
  have hAccess : ensureAccess p p.id = .ok () :=
    ensureAccess_ok_iff.mpr (by simp [Principal.canAccess])
  have hTask : Task.ofRequest .getUser limit ⟨some p⟩ [("user_id", Utf8.encode digits)] r =
      .ok (.showUser p.id) := by
    simp only [Task.ofRequest, Except.bind_ok_iff, Except.mapError_ok_iff, Except.pure_ok_iff]
    exact ⟨p, hCaller, p.id, hUser, (), hAccess, rfl⟩
  rw [hTask, Task.ofRequest, hCaller]
  rfl

theorem findRoute_of_spells {n : Nat} (h : Decimal.Spells digits n) :
    findRoute (userPath (Utf8.encode digits)) =
      some (recordRoute "/api/v1/users/" .users, [("user_id", Utf8.encode digits)]) := by
  refine findRoute_userPath ?_ ?_ fun hEmpty => h.nonempty (Utf8.encode_eq_nil_iff.mp hEmpty)
  · exact fun hb => absurd (octet_of_digits h.digits hb).1 (by decide)
  · intro hMe
    have hLetter : 0x6D ∈ Utf8.encode digits := hMe ▸ List.mem_cons_self
    exact absurd (octet_of_digits h.digits hLetter).2 (by decide)

/-- The caller's number in the path is as good as none before the gate. -/
theorem pass_own {n : Nat} (h : Decimal.Spells digits n) (base : String) (policy : GatewayPolicy) :
    (recordRoute base .users).pass policy [("user_id", Utf8.encode digits)] r =
      ownRoute.pass policy [] r := by
  have hScreen := screen_of_harmless (decodeParams?_of_digits h.digits "user_id")
    (List.forall_mem_singleton.mpr (classify_of_digits h.digits)) r.target.query
  have hGate : (recordRoute base .users).group.gate? = some .userOrAdmin := rfl
  have hOwn : ownRoute.group.gate? = some .userOrAdmin := rfl
  rw [Route.pass_of_gate hGate, Route.pass_of_gate hOwn, hScreen]

theorem operation?_own (hMethod : r.method = "GET" ∨ r.method = "HEAD") (base : String) :
    ownRoute.operation? r.method = some .me ∧
      (recordRoute base .users).operation? r.method = some .getUser := by
  rcases hMethod with hMethod | hMethod <;> rw [hMethod] <;> exact ⟨rfl, rfl⟩

theorem plan_own {settings : Settings}
    (hCaller : settings.gatewayPolicy.extract r.headers r.peer = .ok p)
    (hMethod : r.method = "GET" ∨ r.method = "HEAD") (h : Decimal.Spells digits p.id.toNat) :
    plan settings (r.withPath ownPath) =
      plan settings (r.withPath (userPath (Utf8.encode digits))) := by
  obtain ⟨hOwn, hGet⟩ := operation?_own hMethod "/api/v1/users/"
  simp only [plan, withPath_path, withPath_method, pass_withPath, ofRequest_withPath,
    findRoute_ownPath, findRoute_of_spells h, hOwn, hGet, pass_own h]
  cases hPass : ownRoute.pass settings.gatewayPolicy [] r with
  | error e => rfl
  | ok c =>
    have hGate : ownRoute.group.gate? = some .userOrAdmin := rfl
    obtain ⟨-, p', hCaller', -, -, rfl⟩ := (Route.pass_ok_iff_of_gate hGate).mp hPass
    obtain rfl : p' = p := Except.ok.inj (hCaller'.symm.trans hCaller)
    simp only [ofRequest_own h]

theorem handle_own (hCaller : f.settings.gatewayPolicy.extract r.headers r.peer = .ok p)
    (hMethod : r.method = "GET" ∨ r.method = "HEAD") (h : Decimal.Spells digits p.id.toNat) :
    handle f newId (r.withPath ownPath) =
      handle f newId (r.withPath (userPath (Utf8.encode digits))) := by
  have hRoute := findRoute_of_spells h
  obtain ⟨hOwn, hGet⟩ := operation?_own hMethod "/api/v1/users/"
  refine handle_withPath (plan_own hCaller hMethod h) ?_ ?_
  · simp only [allowHeaders, withPath_path, withPath_method, findRoute_ownPath, hRoute, hOwn, hGet,
      Option.isSome_some, if_true]
  · simp only [leavesOutBody, withPath_path, withPath_method, findRoute_ownPath, hRoute,
      Option.isSome_some]

end Own

/-! ### Turns -/

/-- The same arrival for another path. -/
def Arrival.withPath (a : Arrival) (path : List UInt8) : Arrival :=
  { a with request := a.request.withPath path }

variable {σ : Type} (respond : (q : Call) → σ → Option q.Answer × σ)

/-- For two arrivals the same response is given and the same calls are made, in the same order, and
what stands behind the service is left in the same state. -/
structure GoAlike (settings : Settings) (opened : Bool) (s : σ) (a a' : Arrival) : Prop where
  response : (attend respond settings opened a s).1.response =
    (attend respond settings opened a' s).1.response
  calls : (attend respond settings opened a s).1.calls =
    (attend respond settings opened a' s).1.calls
  after : (attend respond settings opened a s).2 = (attend respond settings opened a' s).2

theorem goAlike_of_handle {settings : Settings} {opened : Bool} {s : σ} {a : Arrival}
    {path path' : List UInt8}
    (h : handle ⟨settings, opened, a.stamp⟩ a.newId (a.request.withPath path) =
      handle ⟨settings, opened, a.stamp⟩ a.newId (a.request.withPath path')) :
    GoAlike respond settings opened s (a.withPath path) (a.withPath path') := by
  constructor <;> simp only [attend, Arrival.withPath, h]

/-- The two ways of an administrator to the record of any user go alike, and so do the two ways of
any caller to their own record. -/
theorem record_paths_agree (settings : Settings) (opened : Bool) (s : σ) {a : Arrival}
    {p : Principal}
    (hCaller : settings.gatewayPolicy.extract a.request.headers a.request.peer = .ok p) :
    (p.isAdmin = true → ∀ segment, 0x2F ∉ segment → segment ≠ Utf8.encode "me" →
      GoAlike respond settings opened s (a.withPath (userPath segment))
        (a.withPath (adminPath segment))) ∧
    (a.request.method = "GET" ∨ a.request.method = "HEAD" →
      ∀ digits, Decimal.Spells digits p.id.toNat →
        GoAlike respond settings opened s (a.withPath ownPath)
          (a.withPath (userPath (Utf8.encode digits)))) := by
  constructor
  · intro hAdmin segment hSlash hMe
    exact goAlike_of_handle respond (handle_record_of_isAdmin hCaller hAdmin hSlash hMe)
  · intro hMethod digits hDigits
    exact goAlike_of_handle respond (handle_own hCaller hMethod hDigits)

/-- User 7, who is an administrator, wants to see a record. -/
def adminReads : Arrival where
  request :=
    ⟨"GET", ⟨[], none⟩,
      [Response.header "x-user-id" "7", Response.header "x-user-role" "Admin"], [], none, ""⟩
  stamp := ⟨0, 1, "a", "r"⟩
  newId := "id"

theorem spellings_of_seven_agree :
    GoAlike Backend.respond cachedSettings true (.start [] (.ofEntries []))
        (adminReads.withPath (userPath (Utf8.encode "%37")))
        (adminReads.withPath (adminPath (Utf8.encode "%37"))) ∧
      GoAlike Backend.respond cachedSettings true (.start [] (.ofEntries []))
        (adminReads.withPath ownPath) (adminReads.withPath (userPath (Utf8.encode "007"))) ∧
      ∀ path ∈ [userPath (Utf8.encode "%37"), ownPath],
        (attend Backend.respond cachedSettings true (adminReads.withPath path)
          (.start [] (.ofEntries []))).1.calls = [.statement (.getUser 7)] := by
  have hBoth := record_paths_agree Backend.respond cachedSettings true
    (.start [] (.ofEntries [])) (a := adminReads) (p := ⟨7, "Admin"⟩) rfl
  refine ⟨hBoth.1 (by decide) _ (by decide) (by decide), hBoth.2 (.inl rfl) _ ?_, ?_⟩
  · exact ⟨by decide, List.all_eq_true.mp (by rfl), by rfl⟩
  · exact List.forall_mem_cons.mpr ⟨rfl, List.forall_mem_singleton.mpr rfl⟩

end Gatehouse.Service
