import Gatehouse.Proofs.Service.Handling
import Gatehouse.Proofs.Service.Routes
import Gatehouse.Proofs.Service.Runs
import Gatehouse.Proofs.Service.Tasks

/-! Nothing happens without authorization.  A request has an effect if a call is made for it or a
token is given.  Then it became a task, so it had a guarded route, harmless parameters, a trusted
peer and a complete caller; and a caller who is no administrator only reached their own record. -/

namespace Gatehouse.Service

open Identity Roles Text Web

/-- The request reached the database or the cache, or it brought tokens. -/
def Turn.HasEffect (turn : Turn) : Prop := turn.calls ≠ [] ∨ turn.response.GivesToken

/-- What stands behind a request that has an effect: the route and the parameters of its path, its
caller, and how far the calls made for it may go. -/
structure Authorized (settings : Settings) (r : Request) (calls : List Call) (route : Route)
    (params : List (String × List UInt8)) (p : Principal) : Prop where
  matched : findRoute r.target.path = some (route, params)
  offered : (route.operation? r.method).isSome = true
  guarded : (route.group = .users ∧ Utf8.encode "/api/v1/users/" <+: r.target.path) ∨
    (route.group = .admin ∧ Utf8.encode "/api/v1/admin/" <+: r.target.path)
  harmless : IsHarmless r.target.query params
  trusted : settings.gatewayPolicy.trust.admits r.peer = true
  identified : Principal.ofHeaders r.headers settings.requireRole = .ok p
  id_ne_zero : p.id ≠ 0
  entitled : sameUpToCase p.role adminRole = true ∨
    (sameUpToCase p.role userRole = true ∧ route.group = .users ∧ OnlyConcern p.id calls)

theorem not_givesToken_of_plan {settings : Settings} {r : Request} {response : Response}
    (h : plan settings r = .answer response) : ¬response.GivesToken := by
  rcases answer_of_plan h with ⟨status, rfl⟩ | ⟨e, rfl⟩
  · exact fun ⟨_, hBody, _⟩ => nomatch hBody
  · cases e with
    | api e => exact not_givesToken_ofError e
    | rejected reason => exact fun ⟨_, hBody, _⟩ => nomatch hBody

/-- Whatever does not carry out a task that issues tokens ends without one. -/
theorem handle_ends_without_token (f : Facilities) (newId : String) (r : Request)
    (h : ∀ subject roles, plan f.settings r ≠ .task (.issueTokens subject roles)) :
    (handle f newId r).Ends fun response => ¬response.GivesToken := by
  rcases handle_cases f newId r with ⟨response, hDone, hBody⟩ | hPlan
  · rw [hDone]
    exact fun ⟨j, hj, _⟩ => hBody j hj
  · rw [hPlan]
    have hEnds : (carryOut f (plan f.settings r)).Ends fun response => ¬response.GivesToken := by
      cases hCase : plan f.settings r with
      | answer response => exact not_givesToken_of_plan hCase
      | task task =>
        refine perform_ends_without_token fun subject roles hTask => h subject roles ?_
        rw [hCase, hTask]
    refine hEnds.bind fun response hResponse ⟨j, hj, hToken⟩ => hResponse ⟨j, ?_, hToken⟩
    rw [finish_body] at hj
    exact eq_of_finalBody_json r hj

variable {σ : Type} (respond : (q : Call) → σ → Option q.Answer × σ)

theorem asked_handle {f : Facilities} {newId : String} {r : Request} {s : σ}
    (h : (handle f newId r).asked respond s ≠ []) :
    ∃ task, plan f.settings r = .task task ∧
      (handle f newId r).asked respond s = (perform f task).asked respond s := by
  rcases handle_cases f newId r with ⟨response, hDone, -⟩ | hPlan
  · rw [hDone] at h
    exact absurd rfl h
  · rw [hPlan, Dialogue.asked_map] at h ⊢
    cases hCase : plan f.settings r with
    | answer response =>
      rw [hCase] at h
      exact absurd rfl h
    | task task => exact ⟨task, rfl, rfl⟩

/-- A request that has an effect became a task, and not the one that says that the service is
well.  If the task is about one user, the calls are. -/
theorem task_of_hasEffect {settings : Settings} {cacheOpened : Bool} {a : Arrival} {s : σ}
    (h : (attend respond settings cacheOpened a s).1.HasEffect) :
    ∃ task, plan settings a.request = .task task ∧ task ≠ .health ∧
      ∀ user, task.Concerns user →
        OnlyConcern user (attend respond settings cacheOpened a s).1.calls := by
  -- Calls are made for a task, and a token without any call can only come from the one task that
  -- issues tokens: every other way ends without one.
  rcases h with hCalls | hToken
  · obtain ⟨task, hPlan, hAsked⟩ := asked_handle respond hCalls
    refine ⟨task, hPlan, ?_, fun user hUser => ?_⟩
    · rintro rfl
      exact hCalls hAsked
    · have hOnly := asked_of_concerns respond (f := ⟨settings, cacheOpened, a.stamp⟩) hUser s
      rw [← hAsked] at hOnly
      exact hOnly
  · by_cases hIssue : ∃ subject roles, plan settings a.request = .task (.issueTokens subject roles)
    · obtain ⟨subject, roles, hPlan⟩ := hIssue
      exact ⟨_, hPlan, nofun, fun _ hUser => hUser.elim⟩
    · have hEnds := handle_ends_without_token ⟨settings, cacheOpened, a.stamp⟩ a.newId a.request
        fun subject roles hPlan => hIssue ⟨subject, roles, hPlan⟩
      have hNone : ((handle ⟨settings, cacheOpened, a.stamp⟩ a.newId a.request).run respond s).1 =
          none := by
        cases hRun : ((handle ⟨settings, cacheOpened, a.stamp⟩ a.newId a.request).run respond s).1
          with
        | none => rfl
        | some response =>
          have hResponse : (attend respond settings cacheOpened a s).1.response = response :=
            congrArg (·.getD timeout) hRun
          rw [hResponse] at hToken
          exact absurd hToken (hEnds.run respond hRun)
      obtain ⟨_, hBody, _⟩ := hToken
      rw [show (attend respond settings cacheOpened a s).1.response = timeout from
        congrArg (·.getD timeout) hNone] at hBody
      cases hBody

theorem eq_health_of_gate_none {group : Group} {op : Operation} (h : group.gate? = none)
    (hMem : op ∈ group.operations) : op = .health := by
  cases group with
  | probe => exact List.mem_singleton.mp hMem
  | everybody => exact List.mem_singleton.mp hMem
  | users => cases h
  | admin => cases h

theorem guarded_of_gate {group : Group} {gate : RoleGate} {path : List UInt8}
    (h : group.gate? = some gate) (hRoot : group.root <+: path) :
    (group = .users ∧ Utf8.encode "/api/v1/users/" <+: path) ∨
      (group = .admin ∧ Utf8.encode "/api/v1/admin/" <+: path) := by
  cases group with
  | probe => cases h
  | everybody => cases h
  | users => exact .inl ⟨rfl, hRoot⟩
  | admin => exact .inr ⟨rfl, hRoot⟩

/-- The gates let administrators through, and users where they are the group. -/
theorem admin_or_user_of_allows {group : Group} {gate : RoleGate} {role : String}
    (h : group.gate? = some gate) (hAllows : gate.allows role = true) :
    sameUpToCase role adminRole = true ∨
      (sameUpToCase role userRole = true ∧ group = .users) := by
  obtain ⟨name, hName, hSame⟩ := RoleGate.allows_iff.mp hAllows
  have hRole : sameUpToCase role name = true := sameUpToCase_iff.mpr hSame.symm
  cases group with
  | probe => cases h
  | everybody => cases h
  | users =>
    cases h
    rcases List.mem_cons.mp hName with rfl | hName
    · exact .inr ⟨hRole, rfl⟩
    · obtain rfl := List.mem_singleton.mp hName
      exact .inl hRole
  | admin =>
    cases h
    obtain rfl := List.mem_singleton.mp hName
    exact .inl hRole

theorem authorized_of_plan {settings : Settings} {r : Request} {task : Task} {calls : List Call}
    (hPlan : plan settings r = .task task) (hHealth : task ≠ .health)
    (hCalls : ∀ user, task.Concerns user → OnlyConcern user calls) :
    ∃ route params p, Authorized settings r calls route params p := by
  obtain ⟨route, params, c, op, hRoute, hPass, hOp, hTask⟩ := plan_eq_task_iff.mp hPlan
  have hMem := operation_mem hRoute hOp
  cases hGate : route.group.gate? with
  | none =>
    obtain rfl := eq_health_of_gate_none hGate hMem
    cases hTask
    exact absurd rfl hHealth
  | some gate =>
    obtain ⟨hHarmless, p, hExtract, hId, hAllows, rfl⟩ :=
      (Route.pass_ok_iff_of_gate hGate).mp hPass
    obtain ⟨hTrust, hHeaders⟩ := GatewayPolicy.extract_ok_iff.mp hExtract
    have hOffered : (route.operation? r.method).isSome = true := by rw [hOp]; rfl
    refine ⟨route, params, p, hRoute, hOffered, guarded_of_gate hGate (root_isPrefix hRoute),
      hHarmless, hTrust, hHeaders, hId, ?_⟩
    -- Whoever is no administrator is a user, whose task is about themselves.
    by_cases hAdmin : p.isAdmin = true
    · exact .inl hAdmin
    · obtain ⟨hUser, hGroup⟩ := (admin_or_user_of_allows hGate hAllows).resolve_left hAdmin
      have hNotAdmin : p.isAdmin = false := by simpa using hAdmin
      rw [hGroup] at hMem
      have hConcerns := concerns_of_ofRequest hMem hNotAdmin hTask
      exact .inr ⟨hUser, hGroup, hCalls p.id hConcerns⟩

/-- In every run of the service, with whatever answers from the database and the cache, a request
has an effect only if it was authorized. -/
theorem serve_authorized (settings : Settings) (cacheOpened : Bool) (arrivals : List Arrival)
    (s : σ) :
    ∀ turn ∈ serve respond settings cacheOpened arrivals s, turn.HasEffect →
      ∃ route params p, Authorized settings turn.request turn.calls route params p := by
  refine forall_serve respond (fun a s hEffect => ?_) arrivals s
  obtain ⟨task, hPlan, hHealth, hCalls⟩ := task_of_hasEffect respond hEffect
  exact authorized_of_plan hPlan hHealth hCalls

/-- User 7 deletes their own record. -/
def ownDeletion : Arrival where
  request :=
    ⟨"DELETE", ⟨Utf8.encode "/api/v1/users/7", none⟩,
      [Response.header "x-user-id" "7", Response.header "x-user-role" "User"], [], none, ""⟩
  stamp := ⟨0, 1, "a", "r"⟩
  newId := "id"

theorem own_deletion_authorized :
    ∃ turn ∈ serve Backend.respond cachedSettings true [ownDeletion]
        (.start [.reply (.ok (.ofAffected 1))] (.ofEntries [])),
      turn.calls = [.statement (.deleteUser 7), .cache (.delete "roles:user:7")] ∧
      turn.HasEffect ∧
      ∃ route params p, Authorized cachedSettings turn.request turn.calls route params p := by
  have hEffect : (attend Backend.respond cachedSettings true ownDeletion
      (.start [.reply (.ok (.ofAffected 1))] (.ofEntries []))).1.HasEffect :=
    .inl (List.cons_ne_nil _ _)
  exact ⟨_, List.mem_cons_self, rfl, hEffect,
    serve_authorized Backend.respond cachedSettings true [ownDeletion] _ _ List.mem_cons_self
      hEffect⟩

end Gatehouse.Service
