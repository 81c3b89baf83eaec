import Gatehouse.Json.Parser
import Gatehouse.Proofs.Dialogue
import Gatehouse.Proofs.Except
import Gatehouse.Proofs.Identity.Headers
import Gatehouse.Service.Perform

/-! What tasks do.  A task on one user runs one statement on that user; the deletion of a user may
also take the user's entry out of the cache.  Tokens come from the task that issues them and from
no other. -/

namespace Gatehouse.Service

open Identity Roles Users Token Web

/-- The task is about one user. -/
def Task.Concerns (user : UserId) : Task → Prop
  | .showUser target | .updateUser target _ _ | .deleteUser target => target = user
  | .health | .listUsers .. | .createUser .. | .issueTokens .. => False

/-- The statement gets, updates or deletes one user. -/
def Statement.Concerns (user : UserId) : Statement → Prop
  | .getUser target | .updateUser target _ _ | .deleteUser target => target = user
  | .listUsers .. | .createUser .. | .rolesOf _ => False

/-- The calls of a task on one user: a statement on the user, and after it perhaps the removal of
the user's entry from the cache. -/
def OnlyConcern (user : UserId) (calls : List Call) : Prop :=
  ∃ s : Statement, s.Concerns user ∧
    (calls = [.statement s] ∨ calls = [.statement s, .cache (.delete (cacheKey user))])

variable {σ : Type} (respond : (q : Call) → σ → Option q.Answer × σ)

theorem asked_query (s : Statement) (g : Reply → Response) (state : σ) :
    ((query s).bind fun reply => .done (g reply)).asked respond state = [.statement s] :=
  Dialogue.asked_question respond _ _ state fun reply => ⟨g reply, rfl⟩

theorem asked_invalidate (user : UserId) (response : Response) (state : σ) :
    ((invalidate send user).bind fun _ => .done response).asked respond state =
      [.cache (.delete (cacheKey user))] := by
  rw [Dialogue.asked_map]
  exact Dialogue.asked_question respond _ _ state fun _ => ⟨(), rfl⟩

theorem asked_deleteUser (f : Facilities) (user : UserId) (state : σ) :
    OnlyConcern user ((perform f (.deleteUser user)).asked respond state) := by
  refine ⟨.deleteUser user, rfl, ?_⟩
  simp only [perform, query, Dialogue.bind_eq, Dialogue.question, Dialogue.bind, Dialogue.asked]
  cases respond (.statement (.deleteUser user)) state with
  | mk answer state =>
    cases answer with
    | none => exact .inl rfl
    | some reply =>
      simp only
      cases reply.deleted with
      | error e => exact .inl rfl
      | ok wasThere =>
        cases wasThere with
        | false => exact .inl rfl
        | true =>
          by_cases hCache : f.hasCache = true
          · simp only [hCache, if_true]
            exact .inr (congrArg _ (asked_invalidate respond user (.ofStatus 204) state))
          · simp only [hCache]
            exact .inl rfl

/-- A task on one user calls for nothing that concerns anybody else. -/
theorem asked_of_concerns {f : Facilities} {task : Task} {user : UserId}
    (h : task.Concerns user) (state : σ) :
    OnlyConcern user ((perform f task).asked respond state) := by
  cases task with
  | showUser target =>
    cases h
    exact ⟨.getUser user, rfl, .inl (asked_query respond _ _ state)⟩
  | updateUser target name email =>
    cases h
    exact ⟨.updateUser user name email, rfl, .inl (asked_query respond _ _ state)⟩
  | deleteUser target =>
    cases h
    exact asked_deleteUser respond f user state
  | health | listUsers | createUser | issueTokens => exact h.elim

theorem ensureAccess_ok_iff {p : Principal} {user : UserId} {u : Unit} :
    ensureAccess p user = .ok u ↔ p.canAccess user = true := by
  rw [ensureAccess]
  split <;> simp [*]

/-- A caller who is no administrator is only given tasks on themselves, on routes that are open to
users. -/
theorem concerns_of_ofRequest {op : Operation} {limit : Nat} {p : Principal}
    {params : List (String × List UInt8)} {r : Request} {task : Task}
    (hOp : op ∈ [.me, .getUser, .updateUser, .deleteUser]) (hAdmin : p.isAdmin = false)
    (h : Task.ofRequest op limit ⟨some p⟩ params r = .ok task) : task.Concerns p.id := by
  have hCaller : ∀ q, (⟨some p⟩ : Context).caller = .ok q → q = p := by
    intro q hq
    rw [Context.caller_attached] at hq
    split at hq <;> cases hq
    rfl
  have hAccess : ∀ user u, ensureAccess p user = .ok u → user = p.id := by
    intro user u hu
    have hAllowed := ensureAccess_ok_iff.mp hu
    simp only [Principal.canAccess, hAdmin, Bool.false_or, beq_iff_eq] at hAllowed
    exact hAllowed.symm
  simp only [List.mem_cons, List.not_mem_nil, or_false] at hOp
  rcases hOp with rfl | rfl | rfl | rfl <;>
    simp only [Task.ofRequest, Except.bind_ok_iff, Except.mapError_ok_iff, Except.pure_ok_iff] at h
  · obtain ⟨q, hq, rfl⟩ := h
    rw [hCaller q hq]
    rfl
  · obtain ⟨q, hq, user, -, _, hu, rfl⟩ := h
    rw [hCaller q hq] at hu
    exact hAccess user _ hu
  · obtain ⟨q, hq, user, -, _, -, _, hu, _, -, rfl⟩ := h
    rw [hCaller q hq] at hu
    exact hAccess user _ hu
  · obtain ⟨q, hq, user, -, _, hu, rfl⟩ := h
    rw [hCaller q hq] at hu
    exact hAccess user _ hu

/-- The tasks that an operation can come to. -/
def Operation.Yields : Operation → Task → Prop
  | .health, .health | .me, .showUser _ | .getUser, .showUser _ | .updateUser, .updateUser ..
  | .deleteUser, .deleteUser _ | .listUsers, .listUsers .. | .createUser, .createUser ..
  | .issueTokens, .issueTokens .. => True
  | _, _ => False

theorem yields_of_ofRequest {op : Operation} {limit : Nat} {c : Context}
    {params : List (String × List UInt8)} {r : Request} {task : Task}
    (h : Task.ofRequest op limit c params r = .ok task) : op.Yields task := by
  cases op with
  | listUsers =>
    simp only [Task.ofRequest] at h
    split at h
    · cases h
      trivial
    · cases h
  | _ =>
    simp only [Task.ofRequest, Except.bind_ok_iff, Except.mapError_ok_iff, Except.pure_ok_iff] at h
    grind [Operation.Yields]

/-- The members under which responses carry tokens. -/
def tokenKeys : List String := ["access_token", "refresh_token"]

/-- There is a token in the response. -/
def Response.GivesToken (response : Response) : Prop :=
  ∃ j, response.body = .json j ∧ ∃ key ∈ tokenKeys, (j.member? key).isSome = true

theorem givesToken_of_pair (pair : TokenPair) : (Response.json 200 pair.toJson).GivesToken :=
  ⟨pair.toJson, rfl, "access_token", by decide, rfl⟩

theorem not_givesToken_json {status : Nat} {j : Json}
    (h : ∀ key ∈ tokenKeys, j.member? key = none) : ¬(Response.json status j).GivesToken := by
  rintro ⟨_, hBody, key, hKey, hSome⟩
  cases hBody
  rw [h key hKey] at hSome
  cases hSome

theorem not_givesToken_ofError (e : ApiError) : ¬(Response.ofError e).GivesToken :=
  not_givesToken_json fun key hKey => by
    simp only [tokenKeys, List.mem_cons, List.not_mem_nil, or_false] at hKey
    rcases hKey with rfl | rfl <;> rfl

theorem not_givesToken_row (status : Nat) (row : UserRow) :
    ¬(Response.json status row.toJson).GivesToken :=
  not_givesToken_json fun key hKey => by
    simp only [tokenKeys, List.mem_cons, List.not_mem_nil, or_false] at hKey
    rcases hKey with rfl | rfl <;> rfl

theorem not_givesToken_answerUser (reply : Except RepoError (Option UserRow)) :
    ¬(answerUser reply).GivesToken := by
  unfold answerUser
  split
  · exact not_givesToken_row 200 _
  · exact not_givesToken_ofError _
  · exact not_givesToken_ofError _

theorem perform_ends_without_token {f : Facilities} {task : Task}
    (h : ∀ subject roles, task ≠ .issueTokens subject roles) :
    (perform f task).Ends fun response => ¬response.GivesToken := by
  cases task with
  | health =>
    exact not_givesToken_json fun key hKey => by
      simp only [tokenKeys, List.mem_cons, List.not_mem_nil, or_false] at hKey
      rcases hKey with rfl | rfl <;> rfl
  | showUser user => exact fun reply => not_givesToken_answerUser _
  | updateUser user name email => exact fun reply => not_givesToken_answerUser _
  | deleteUser user =>
    intro reply
    have hDeleted : ¬(Response.ofStatus 204).GivesToken := fun ⟨_, hBody, _⟩ => nomatch hBody
    simp only [Dialogue.bind]
    split
    · exact not_givesToken_ofError _
    · exact not_givesToken_ofError _
    · split
      · exact (Dialogue.ends_true _).bind fun _ _ => hDeleted
      · exact hDeleted
  | listUsers name limit offset =>
    intro reply
    simp only [Dialogue.bind]
    split
    · exact not_givesToken_json fun _ _ => rfl
    · exact not_givesToken_ofError _
  | createUser name email =>
    intro reply
    simp only [Dialogue.bind]
    split
    · exact not_givesToken_row 201 _
    · exact not_givesToken_ofError _
  | issueTokens subject roles => exact absurd rfl (h subject roles)

end Gatehouse.Service
