import Gatehouse.Proofs.Service.Statements
import Gatehouse.Proofs.Users.Listing

/-! From the query of a request to the statement that lists users.  The guard and the operation
decode the query alike, so what the statement runs with is what the guard has let through. -/

namespace Gatehouse.Service

open Screen Text Users

theorem offer_listUsers : ∀ route ∈ routes, ∀ offer ∈ route.operations, offer.2 = .listUsers →
    offer.1 = "GET" ∧ route.template = [literal "/api/v1/admin/users"] := by decide

theorem eq_listUsers_of_ofRequest {op : Operation} {limit : Nat} {c : Identity.Context}
    {params : List (String × List UInt8)} {r : Request} {name : Option String} {count offset : Int}
    (h : Task.ofRequest op limit c params r = .ok (.listUsers name count offset)) :
    op = .listUsers ∧ ∃ q, ListQuery.parse? r.target.query = some q ∧
      q.nameFilter = name ∧ q.effectiveLimit = count ∧ q.effectiveOffset = offset := by
  have hYields := yields_of_ofRequest h
  cases op with
  | listUsers =>
    simp only [Task.ofRequest] at h
    split at h
    · rename_i q hParse
      cases h
      exact ⟨rfl, q, hParse, rfl, rfl, rfl⟩
    · cases h
  | _ => exact hYields.elim

theorem parse?_eq (query : Option (List UInt8)) :
    ListQuery.parse? query = ListQuery.ofPairs? (queryPairs query) := by
  cases query <;> rfl

/-- The request asks for a list of users, nothing in its query looks like an attack, and the query
selects the users with this search term and this part of the list. -/
structure Request.Selects (r : Request) (name : Option String) (limit offset : Int) : Prop where
  method : r.method = "GET" ∨ r.method = "HEAD"
  path : r.target.path = Utf8.encode "/api/v1/admin/users"
  harmless : ∀ p ∈ queryPairs r.target.query, classify p.2 = none
  selection : Selection (queryPairs r.target.query) name limit offset

theorem selects_of_plan {settings : Settings} {r : Request} {name : Option String}
    {limit offset : Int} (h : plan settings r = .task (.listUsers name limit offset)) :
    r.Selects name limit offset := by
  obtain ⟨route, params, c, op, hRoute, hPass, hOp, hTask⟩ := plan_eq_task_iff.mp h
  obtain ⟨rfl, q, hParse, rfl, rfl, rfl⟩ := eq_listUsers_of_ofRequest hTask
  obtain ⟨hMethod, hPath⟩ := asked_at offer_listUsers hRoute hOp
  -- The list is offered to administrators only, so the request has been screened.
  have hGroup : route.group = .admin := by
    have hMem := operation_mem hRoute hOp
    cases hGroup : route.group <;> rw [hGroup] at hMem <;> simp [Group.operations] at hMem ⊢
  have hGate : route.group.gate? = some .admin := by rw [hGroup]; rfl
  obtain ⟨hHarmless, -⟩ := (Route.pass_ok_iff_of_gate hGate).mp hPass
  rw [parse?_eq] at hParse
  refine ⟨?_, hPath, hHarmless.query_values, selection_of_ofPairs hParse hHarmless.query_values⟩
  split at hMethod
  · rename_i hHead
    exact .inr (beq_iff_eq.mp hHead)
  · exact .inl hMethod

variable {σ : Type} (respond : (q : Call) → σ → Option q.Answer × σ)

/-- In every run of the service, with whatever answers from the database and the cache, users are
listed as the query of the request says. -/
theorem serve_selects (settings : Settings) (cacheOpened : Bool) (arrivals : List Arrival) (s : σ) :
    ∀ turn ∈ serve respond settings cacheOpened arrivals s, ∀ name limit offset,
      .statement (.listUsers name limit offset) ∈ turn.calls →
        turn.request.Selects name limit offset := by
  refine forall_serve respond (fun a s name limit offset hMem => ?_) arrivals s
  obtain ⟨task, hPlan, hStatement⟩ := task_of_statement respond hMem
  cases task <;> cases hStatement
  exact selects_of_plan hPlan

/-- An administrator looks for users by a name with a quotation mark and blank characters around
it, and asks for more of the list than is given at once. -/
def nameSearch : Arrival where
  request :=
    ⟨"GET", ⟨Utf8.encode "/api/v1/admin/users",
        some (Utf8.encode "name=+Ann%20O%27Neil%C2%A0&limit=500&&offset=-3")⟩,
      [Response.header "x-user-id" "1", Response.header "x-user-role" "admin"], [], none, ""⟩
  stamp := ⟨0, 1, "a", "r"⟩
  newId := "id"

theorem name_search_selects :
    ∃ turn ∈ serve Backend.respond cachedSettings true [nameSearch] (.start [] (.ofEntries [])),
      turn.calls = [.statement (.listUsers (some "Ann O'Neil") 200 0)] ∧
      turn.request.Selects (some "Ann O'Neil") 200 0 := by
  have hCalls : (attend Backend.respond cachedSettings true nameSearch
      (.start [] (.ofEntries []))).1.calls = [.statement (.listUsers (some "Ann O'Neil") 200 0)] := by
    rfl
  refine ⟨_, List.mem_cons_self, hCalls, ?_⟩
  exact serve_selects Backend.respond cachedSettings true [nameSearch] _ _ List.mem_cons_self _ _ _
    (hCalls ▸ List.mem_cons_self)

end Gatehouse.Service
