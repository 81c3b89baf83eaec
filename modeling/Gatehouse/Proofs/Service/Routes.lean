import Gatehouse.Proofs.Identity.Headers
import Gatehouse.Proofs.Screen.Guard
import Gatehouse.Service.Route

/-! The table of routes, and the way of a request through it.  A route stands under the first piece
of its template, and its group says which operations it can offer.  A request that becomes a task
has a route and an operation, has been screened, and has passed the layers of the group. -/

namespace Gatehouse.Service

open Identity Web Screen Text

theorem Template.stripLiteral_eq_some_iff {literal path rest : List UInt8} :
    Template.stripLiteral literal path = some rest ↔ path = literal ++ rest := by
  induction literal generalizing path with
  | nil => simp [Template.stripLiteral]
  | cons l literal ih =>
    cases path with
    | nil => simp [Template.stripLiteral]
    | cons b path =>
      by_cases h : l = b
      · subst h
        simp [Template.stripLiteral, ih]
      · simp [Template.stripLiteral, h, Ne.symm h]

/-- The piece of the path that all requests for a route begin with. -/
def Route.base (route : Route) : List UInt8 :=
  match route.template with
  | .literal bytes :: _ => bytes
  | _ => []

theorem Route.base_isPrefix {route : Route} {path : List UInt8}
    {params : List (String × List UInt8)} (h : route.params? path = some params) :
    route.base <+: path := by
  rw [Route.base]
  split
  · rename_i bytes pieces hTemplate
    rw [Route.params?, hTemplate, Template.rawParams?] at h
    obtain ⟨rest, hRest, -⟩ := Option.bind_eq_some_iff.mp h
    exact ⟨rest, (Template.stripLiteral_eq_some_iff.mp hRest).symm⟩
  · exact List.nil_prefix

theorem findRoute_eq_some {path : List UInt8} {route : Route}
    {params : List (String × List UInt8)} (h : findRoute path = some (route, params)) :
    route ∈ routes ∧ route.params? path = some params := by
  obtain ⟨found, hMem, hFound⟩ := List.exists_of_findSome?_eq_some h
  obtain ⟨raw, hRaw, hPair⟩ := Option.map_eq_some_iff.mp hFound
  cases hPair
  exact ⟨hMem, hRaw⟩

/-- Where the routes of a group stand. -/
def Group.root : Group → List UInt8
  | .probe | .everybody => Utf8.encode "/"
  | .users => Utf8.encode "/api/v1/users/"
  | .admin => Utf8.encode "/api/v1/admin/"

theorem root_isPrefix_base : ∀ route ∈ routes, route.group.root <+: route.base := by decide

/-- The group of a route is a matter of the path. -/
theorem root_isPrefix {path : List UInt8} {route : Route} {params : List (String × List UInt8)}
    (h : findRoute path = some (route, params)) : route.group.root <+: path := by
  obtain ⟨hMem, hParams⟩ := findRoute_eq_some h
  exact (root_isPrefix_base route hMem).trans (Route.base_isPrefix hParams)

/-- The operations that the routes of a group offer. -/
def Group.operations : Group → List Operation
  | .probe | .everybody => [.health]
  | .users => [.me, .getUser, .updateUser, .deleteUser]
  | .admin => [.listUsers, .createUser, .getUser, .updateUser, .deleteUser, .issueTokens]

theorem operations_subset : ∀ route ∈ routes,
    ∀ offer ∈ route.operations, offer.2 ∈ route.group.operations := by decide

theorem offer_mem {route : Route} {method : String} {op : Operation}
    (h : route.operation? method = some op) :
    (if method == "HEAD" then "GET" else method, op) ∈ route.operations := by
  obtain ⟨before, after, hOffers, -⟩ := List.lookup_eq_some_iff.mp h
  exact hOffers ▸ List.mem_append_right _ List.mem_cons_self

theorem operation_mem {path : List UInt8} {route : Route} {params : List (String × List UInt8)}
    {method : String} {op : Operation} (h : findRoute path = some (route, params))
    (hOp : route.operation? method = some op) : op ∈ route.group.operations :=
  operations_subset route (findRoute_eq_some h).1 _ (offer_mem hOp)

theorem eq_of_literal_template {bytes path : List UInt8} {params : List (String × List UInt8)}
    (h : Template.rawParams? [.literal bytes] path = some params) : path = bytes := by
  rw [Template.rawParams?] at h
  obtain ⟨rest, hRest, hEnd⟩ := Option.bind_eq_some_iff.mp h
  rw [Template.stripLiteral_eq_some_iff] at hRest
  cases rest with
  | nil => rw [hRest, List.append_nil]
  | cons b rest => cases hEnd

/-- Whatever is not to be got is asked for by its own method. -/
theorem eq_of_method {method wanted : String}
    (h : (if method == "HEAD" then "GET" else method) = wanted) (hOther : wanted ≠ "GET") :
    method = wanted := by
  split at h
  · exact absurd h.symm hOther
  · exact h

/-- An operation that only one route offers is asked for there. -/
theorem asked_at {op : Operation} {method path : String}
    (hOffer : ∀ route ∈ routes, ∀ offer ∈ route.operations, offer.2 = op →
      offer.1 = method ∧ route.template = [literal path])
    {r : Request} {route : Route} {params : List (String × List UInt8)}
    (hRoute : findRoute r.target.path = some (route, params))
    (hOp : route.operation? r.method = some op) :
    (if r.method == "HEAD" then "GET" else r.method) = method ∧
      r.target.path = Utf8.encode path := by
  obtain ⟨hMem, hParams⟩ := findRoute_eq_some hRoute
  obtain ⟨hMethod, hTemplate⟩ := hOffer route hMem _ (offer_mem hOp) rfl
  rw [Route.params?, hTemplate] at hParams
  exact ⟨hMethod, eq_of_literal_template hParams⟩

/-- Nothing in the parameters of a request looks like an attack. -/
structure IsHarmless (query : Option (List UInt8)) (params : List (String × List UInt8)) :
    Prop where
  query_values : ∀ p ∈ queryPairs query, classify p.2 = none
  path_values : ∃ decoded, Template.decodeParams? params = some decoded ∧
    ∀ p ∈ decoded, classify p.2 = none

theorem screen_ok_iff {query : Option (List UInt8)} {params : List (String × List UInt8)}
    {u : Unit} : screen query params = .ok u ↔ IsHarmless query params := by
  rw [screen]
  constructor
  · intro h
    split at h
    · cases h
    · rename_i decoded hDecoded
      obtain ⟨hQuery, hPath⟩ := inspect_ok_iff.mp h
      exact ⟨hQuery, decoded, hDecoded, hPath⟩
  · rintro ⟨hQuery, decoded, hDecoded, hPath⟩
    rw [hDecoded]
    exact inspect_ok_iff.mpr ⟨hQuery, hPath⟩

/-- The gate in front of a group, if it has one. -/
def Group.gate? : Group → Option RoleGate
  | .probe | .everybody => none
  | .users => some .userOrAdmin
  | .admin => some .admin

theorem Group.layers_of_gate {group : Group} {gate : RoleGate} (h : group.gate? = some gate)
    (policy : GatewayPolicy) :
    group.layers policy = [.gateway policy, .authenticated, .role gate] := by
  cases group <;> cases h <;> rfl

theorem Route.pass_of_gate {route : Route} {gate : RoleGate} (h : route.group.gate? = some gate)
    (policy : GatewayPolicy) (params : List (String × List UInt8)) (r : Request) :
    route.pass policy params r =
      (screen r.target.query params).bind fun _ =>
        match policy.extract r.headers r.peer with
        | .error e => .error (.ofIdentity e)
        | .ok p =>
          if p.id = 0 then .error .unauthenticated
          else if gate.allows p.role = true then .ok ⟨some p⟩
          else .error .forbidden := by
  have hScreened : route.group.isScreened = true := by
    cases hGroup : route.group <;> first | rfl | (rw [hGroup] at h; cases h)
  rw [Route.pass, Group.layers_of_gate h, Layer.passAll_guarded, hScreened]
  rfl

/-- The layers depend on a request by its query and by the caller that the gateway takes from it. -/
theorem Route.pass_congr (route : Route) {policy : GatewayPolicy} {r r' : Request}
    (hQuery : r'.target.query = r.target.query)
    (hCaller : policy.extract r'.headers r'.peer = policy.extract r.headers r.peer)
    (params : List (String × List UInt8)) :
    route.pass policy params r' = route.pass policy params r := by
  cases hGate : route.group.gate? with
  | some gate => rw [pass_of_gate hGate, pass_of_gate hGate, hQuery, hCaller]
  | none =>
    -- Nothing but the screening stands in front of an open group.
    have hOpen : route.group.layers policy = [] := by
      cases hGroup : route.group <;> rw [hGroup] at hGate <;> first | rfl | cases hGate
    rw [Route.pass, Route.pass, hOpen, hQuery]
    rfl

theorem Route.pass_ok_iff_of_gate {route : Route} {gate : RoleGate}
    (h : route.group.gate? = some gate) {policy : GatewayPolicy}
    {params : List (String × List UInt8)} {r : Request} {c : Context} :
    route.pass policy params r = .ok c ↔
      IsHarmless r.target.query params ∧
        ∃ p, policy.extract r.headers r.peer = .ok p ∧ p.id ≠ 0 ∧ gate.allows p.role = true ∧
          c = ⟨some p⟩ := by
  rw [Route.pass_of_gate h]
  constructor
  · intro hPass
    obtain ⟨_, hScreen, hLayers⟩ := Except.bind_ok_iff.mp hPass
    refine ⟨screen_ok_iff.mp hScreen, ?_⟩
    split at hLayers
    · cases hLayers
    · rename_i p hExtract
      split at hLayers
      · cases hLayers
      · rename_i hId
        split at hLayers
        · rename_i hAllows
          cases hLayers
          exact ⟨p, hExtract, hId, hAllows, rfl⟩
        · cases hLayers
  · rintro ⟨hHarmless, p, hExtract, hId, hAllows, rfl⟩
    refine Except.bind_ok_iff.mpr ⟨(), screen_ok_iff.mpr hHarmless, ?_⟩
    simp only [hExtract, if_neg hId, if_pos hAllows]

theorem plan_eq_task_iff {settings : Settings} {r : Request} {task : Task} :
    plan settings r = .task task ↔
      ∃ route params c op, findRoute r.target.path = some (route, params) ∧
        route.pass settings.gatewayPolicy params r = .ok c ∧
        route.operation? r.method = some op ∧
        Task.ofRequest op settings.bodyLimit.toNat c params r = .ok task := by
  rw [plan]
  constructor
  · intro h
    split at h
    · cases h
    · rename_i route params hRoute
      split at h
      · cases h
      · rename_i c hPass
        split at h
        · cases h
        · rename_i op hOp
          split at h
          · cases h
          · rename_i found hTask
            cases h
            exact ⟨route, params, c, op, hRoute, hPass, hOp, hTask⟩
  · rintro ⟨route, params, c, op, hRoute, hPass, hOp, hTask⟩
    simp only [hRoute, hPass, hOp, hTask]

end Gatehouse.Service
