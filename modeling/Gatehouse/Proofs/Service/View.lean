import Gatehouse.Proofs.Service.Runs

/-! Actions seen without their cache.  Behind an action stand a database and a cache, and `view` is
what comes of the action for one who does not see the cache.  `cacheless` takes the cache away: every
command fails.  An action that is `Deaf` to some answers of the cache goes on in the same way after
each of them, so a cache which gives no other answers might as well be gone. -/

namespace Gatehouse.Service

open Cache

variable {α β δ κ κ' : Type}

/-- A responder made of a database and a cache, each with a state of its own. -/
def behind (database : Statement → δ → Option Reply × δ)
    (cache : (c : Command) → κ → c.Answer × κ) : (q : Call) → δ × κ → Option q.Answer × (δ × κ)
  | .statement s, (d, k) => ((database s d).1, ((database s d).2, k))
  | .cache c, (d, k) => (some (cache c k).1, (d, (cache c k).2))

/-- A database that knows one user, who has one role until the user is deleted. -/
def oneUser : Statement → Bool → Option Reply × Bool
  | .deleteUser _, present => (some (.ok (.ofAffected present.toNat)), false)
  | .rolesOf _, present =>
    (some (.ok (.ofRecords (if present then [.role "editor"] else []))), present)
  | _, present => (some (.ok (.ofRecords [])), present)

/-! ### Actions -/

/-- How every command fails where there is no cache. -/
def outage : CacheError := .connection "down"

/-- Takes the cache away from an action. -/
def cacheless : Action α → Action α
  | .done a => .done a
  | .ask (.statement s) next => .ask (.statement s) fun reply => cacheless (next reply)
  | .ask (.cache _) next => cacheless (next (.error outage))

theorem cacheless_bind (action : Action α) (f : α → Action β) :
    cacheless (action.bind f) = (cacheless action).bind fun a => cacheless (f a) := by
  induction action with
  | done a => rfl
  | ask q next ih =>
    cases q with
    | statement s => exact congrArg (Dialogue.ask (Call.statement s)) (funext ih)
    | cache c => exact ih _

/-- Some of the answers that a cache can give. -/
abbrev Answers := (c : Command) → c.Answer → Prop

/-- Whatever a cache can answer. -/
def anyAnswer : Answers := fun _ _ => True

/-- The answers of a cache that does nothing. -/
def refusals : Answers := fun _ answer => ∃ e, answer = .error e

/-- The action goes on in the same way after each of these answers of the cache. -/
def Deaf (answers : Answers) : Action α → Prop
  | .done _ => True
  | .ask (.statement _) next => ∀ reply, Deaf answers (next reply)
  | .ask (.cache c) next =>
    (∀ a b, answers c a → answers c b → next a = next b) ∧
      ∀ a, answers c a → Deaf answers (next a)

theorem Deaf.bind {answers : Answers} {action : Action α} {f : α → Action β}
    (h : Deaf answers action) (hf : ∀ a, Deaf answers (f a)) : Deaf answers (action.bind f) := by
  induction action with
  | done a => exact hf a
  | ask q next ih =>
    cases q with
    | statement s => exact fun reply => ih reply (h reply)
    | cache c =>
      obtain ⟨hSame, hNext⟩ := h
      exact ⟨fun a b ha hb => congrArg (·.bind f) (hSame a b ha hb),
        fun a ha => ih a (hNext a ha)⟩

/-- The call is a command to the cache, or it asks for roles. -/
def ReadsRoles : Call → Prop
  | .statement s => ∃ user, s = .rolesOf user
  | .cache _ => True

/-! ### Runs -/

section Runs

variable (database : Statement → δ → Option Reply × δ) (cache : (c : Command) → κ → c.Answer × κ)
  (cache' : (c : Command) → κ' → c.Answer × κ')

/-- What comes of an action for one who does not see the cache: its result, the statements that it
runs, and the database after it. -/
structure View (α δ : Type) where
  result : Option α
  statements : List Statement
  database : δ

def view (action : Action α) (s : δ × κ) : View α δ :=
  let after := action.run (behind database cache) s
  ⟨after.1, (action.asked (behind database cache) s).filterMap Call.statement?, after.2.1⟩

theorem view_statement (s : Statement) (next : Reply → Action α) (d : δ) (k : κ) :
    view database cache (.ask (.statement s) next) (d, k) =
      match database s d with
      | (some reply, d) =>
        let rest := view database cache (next reply) (d, k)
        ⟨rest.result, s :: rest.statements, rest.database⟩
      | (none, d) => ⟨none, [s], d⟩ := by
  simp only [view, Dialogue.run, Dialogue.asked, behind]
  cases database s d with
  | mk reply d => cases reply <;> rfl

theorem view_cache (c : Command) (next : c.Answer → Action α) (d : δ) (k : κ) :
    view database cache (.ask (.cache c) next) (d, k) =
      view database cache (next (cache c k).1) (d, (cache c k).2) := rfl

/-- In the states of `inv` the cache gives only these answers, and stays in them. -/
def Gives (inv : κ → Prop) (answers : Answers) : Prop :=
  ∀ c k, inv k → answers c (cache c k).1 ∧ inv (cache c k).2

/-- A cache whose answers go unheard might as well be gone. -/
theorem view_cacheless {inv : κ → Prop} {answers : Answers}
    (hOutage : ∀ c, answers c (.error outage)) (hGives : Gives cache inv answers)
    {action : Action α} (h : Deaf answers action) (d : δ) {k : κ} (hk : inv k) (k' : κ') :
    view database cache action (d, k) = view database cache' (cacheless action) (d, k') := by
  induction action generalizing d k with
  | done a => rfl
  | ask q next ih =>
    cases q with
    | statement s =>
      rw [cacheless, view_statement, view_statement]
      cases database s d with
      | mk reply d =>
        cases reply with
        | none => rfl
        | some reply => simp only [ih reply (h reply) d hk]
    | cache c =>
      obtain ⟨hSame, hNext⟩ := h
      obtain ⟨hAnswer, hAfter⟩ := hGives c k hk
      rw [cacheless, view_cache, hSame _ _ hAnswer (hOutage c)]
      exact ih _ (hNext _ (hOutage c)) d hAfter

theorem inv_of_run {inv : κ → Prop} {answers : Answers} (hGives : Gives cache inv answers)
    (action : Action α) (d : δ) {k : κ} (hk : inv k) :
    inv (action.run (behind database cache) (d, k)).2.2 := by
  induction action generalizing d k with
  | done a => exact hk
  | ask q next ih =>
    cases q with
    | statement s =>
      simp only [Dialogue.run, behind]
      cases database s d with
      | mk reply d =>
        cases reply with
        | none => exact hk
        | some reply => exact ih reply d hk
    | cache c => exact ih _ d (hGives c k hk).2

theorem view_database_of_readsRoles
    (hReads : ∀ user d, (database (.rolesOf user) d).2 = d) {action : Action α}
    (h : action.Asks ReadsRoles) (d : δ) (k : κ) :
    (view database cache action (d, k)).database = d := by
  induction action generalizing d k with
  | done a => rfl
  | ask q next ih =>
    obtain ⟨hFirst, hNext⟩ := h
    cases q with
    | statement s =>
      obtain ⟨user, rfl⟩ := hFirst
      have hSame := hReads user d
      rw [view_statement]
      cases hReply : database (.rolesOf user) d with
      | mk reply after =>
        rw [hReply] at hSame
        cases reply with
        | none => exact hSame
        | some reply => exact (ih reply (hNext reply) after k).trans hSame
    | cache c => exact ih _ (hNext _) d _

end Runs

end Gatehouse.Service
