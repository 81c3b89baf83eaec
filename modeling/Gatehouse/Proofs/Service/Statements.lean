import Gatehouse.Proofs.Service.Authorization
import Gatehouse.Proofs.Service.Cacheless

/-! Which statements a request runs.  A task has one statement at most and runs no other, so a
statement that was run goes back to the task that a request became. -/

namespace Gatehouse.Service

open Roles

/-- The statement of a task, if it may run one. -/
def Task.statement? : Task → Option Statement
  | .health => none
  | .showUser user => some (.getUser user)
  | .updateUser user name email => some (.updateUser user name email)
  | .deleteUser user => some (.deleteUser user)
  | .listUsers name limit offset => some (.listUsers name limit offset)
  | .createUser name email => some (.createUser name email)
  | .issueTokens subject _ => some (.rolesOf subject.user)

/-- A task makes no other calls than these: its statement, the removal of entries from the cache,
and the calls of a lookup for tokens without roles. -/
theorem perform_asks {P : Call → Prop} (f : Facilities) {task : Task}
    (hStatement : ∀ s, task.statement? = some s → P (.statement s))
    (hDelete : ∀ user, P (.cache (.delete (cacheKey user))))
    (hLookup : ∀ subject, task = .issueTokens subject none →
      (f.lookupRoles subject.user).Asks P) : (perform f task).Asks P := by
  cases task with
  | health => trivial
  | showUser user => exact ⟨hStatement _ rfl, fun _ => trivial⟩
  | updateUser user name email => exact ⟨hStatement _ rfl, fun _ => trivial⟩
  | deleteUser user =>
    refine ⟨hStatement _ rfl, fun reply => ?_⟩
    simp only [Dialogue.bind]
    split
    · trivial
    · trivial
    · split
      · exact ⟨hDelete user, fun _ => trivial⟩
      · trivial
  | listUsers name limit offset =>
    refine ⟨hStatement _ rfl, fun reply => ?_⟩
    simp only [Dialogue.bind]
    split <;> trivial
  | createUser name email =>
    refine ⟨hStatement _ rfl, fun reply => ?_⟩
    simp only [Dialogue.bind]
    split <;> trivial
  | issueTokens subject roles =>
    cases roles with
    | some roles =>
      rw [perform_issueTokens_some]
      trivial
    | none =>
      rw [perform_issueTokens_none]
      exact (hLookup subject rfl).bind fun _ => trivial

/-- The call is no other statement than the one that is given. -/
def RunsOnly (own : Option Statement) (q : Call) : Prop := ∀ s, q = .statement s → own = some s

theorem perform_runsOnly (f : Facilities) (task : Task) :
    (perform f task).Asks (RunsOnly task.statement?) := by
  have hOwn : ∀ s, task.statement? = some s → RunsOnly task.statement? (.statement s) :=
    fun s hStatement s' hSame => hStatement.trans (congrArg some (Call.statement.inj hSame))
  refine perform_asks f hOwn (fun _ => nofun) ?_
  rintro subject rfl
  exact lookupRoles_asks f subject.user nofun (hOwn _ rfl) fun _ _ => nofun

variable {σ : Type} (respond : (q : Call) → σ → Option q.Answer × σ)

/-- A statement that was run for a request is that of the task which the request became. -/
theorem task_of_statement {settings : Settings} {opened : Bool} {a : Arrival} {s : σ}
    {statement : Statement}
    (h : .statement statement ∈ (attend respond settings opened a s).1.calls) :
    ∃ task, plan settings a.request = .task task ∧ task.statement? = some statement := by
  obtain ⟨task, hPlan, hAsked⟩ := asked_handle respond (List.ne_nil_of_mem h)
  refine ⟨task, hPlan, ?_⟩
  have hMem : .statement statement ∈ (perform ⟨settings, opened, a.stamp⟩ task).asked respond s :=
    hAsked ▸ h
  exact (perform_runsOnly _ task).asked respond s _ hMem statement rfl

end Gatehouse.Service
