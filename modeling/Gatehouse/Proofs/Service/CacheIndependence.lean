import Gatehouse.Proofs.Service.Authorization
import Gatehouse.Proofs.Service.Cacheless
import Mathlib.Data.List.Forall2

/-! What the cache can do to the answers of the service: nothing, except to those that carry roles
which it was asked for.  Two runs of the same requests on the same database, with caches of any
content and behaviour or without one, are compared turn by turn. -/

namespace Gatehouse.Service

open Cache Roles Text Token Web

/-- The request asks for tokens, and leaves open which roles they are to carry. -/
def Request.LeavesRolesOpen (settings : Settings) (r : Request) : Prop :=
  r.method = "POST" ∧ r.target.path = Utf8.encode "/api/v1/admin/tokens" ∧
    ∃ t, readBody IssueTokens.shape settings.bodyLimit.toNat r = .ok t ∧ t.roles = none

theorem offer_issueTokens : ∀ route ∈ routes, ∀ offer ∈ route.operations, offer.2 = .issueTokens →
    offer.1 = "POST" ∧ route.template = [literal "/api/v1/admin/tokens"] := by decide

theorem eq_issueTokens_of_ofRequest {op : Operation} {limit : Nat} {c : Identity.Context}
    {params : List (String × List UInt8)} {r : Request} {subject : Subject}
    {roles : Option (List String)}
    (h : Task.ofRequest op limit c params r = .ok (.issueTokens subject roles)) :
    op = .issueTokens ∧ ∃ t, readBody IssueTokens.shape limit r = .ok t ∧ t.roles = roles := by
  have hYields := yields_of_ofRequest h
  cases op with
  | issueTokens =>
    simp only [Task.ofRequest, Except.bind_ok_iff, Except.mapError_ok_iff,
      Except.pure_ok_iff] at h
    obtain ⟨_, -, t, hBody, _, -, hTask⟩ := h
    cases hTask
    exact ⟨rfl, t, hBody, rfl⟩
  | _ => exact hYields.elim

theorem leavesRolesOpen_of_plan {settings : Settings} {r : Request} {subject : Subject}
    (h : plan settings r = .task (.issueTokens subject none)) : r.LeavesRolesOpen settings := by
  obtain ⟨route, params, c, op, hRoute, -, hOp, hTask⟩ := plan_eq_task_iff.mp h
  obtain ⟨rfl, t, hBody, hRoles⟩ := eq_issueTokens_of_ofRequest hTask
  obtain ⟨hMethod, hPath⟩ := asked_at offer_issueTokens hRoute hOp
  exact ⟨eq_of_method hMethod (by decide), hPath, t, hBody, hRoles⟩

def Turn.statements (turn : Turn) : List Statement := turn.calls.filterMap Call.statement?

/-- The turns give the same response to the same request and run the same statements for it. -/
structure Turn.Agrees (turn turn' : Turn) : Prop where
  request : turn.request = turn'.request
  response : turn.response = turn'.response
  statements : turn.statements = turn'.statements

section Runs

variable {δ κ κ' : Type} (database : Statement → δ → Option Reply × δ)
  (cache : (c : Command) → κ → c.Answer × κ) (cache' : (c : Command) → κ' → c.Answer × κ')

/-- What the service makes of an arrival, seen without the cache. -/
def attendView (settings : Settings) (cacheOpened : Bool) (a : Arrival) (s : δ × κ) :
    View Response δ :=
  view database cache (handle ⟨settings, cacheOpened, a.stamp⟩ a.newId a.request) s

theorem agrees_of_attendView {settings settings' : Settings} {opened opened' : Bool} {a : Arrival}
    {s : δ × κ} {s' : δ × κ'}
    (h : attendView database cache settings opened a s =
      attendView database cache' settings' opened' a s') :
    (attend (behind database cache) settings opened a s).1.Agrees
        (attend (behind database cache') settings' opened' a s').1 ∧
      (attend (behind database cache) settings opened a s).2.1 =
        (attend (behind database cache') settings' opened' a s').2.1 := by
  have hResult := congrArg View.result h
  have hStatements := congrArg View.statements h
  have hDatabase := congrArg View.database h
  refine ⟨⟨rfl, ?_, hStatements⟩, hDatabase⟩
  exact congrArg (·.getD timeout) hResult

/-- What holds of the turns of each arrival, and leaves the databases alike, holds along the runs. -/
theorem forall₂_serve {R : Turn → Turn → Prop} {inv : κ → Prop} {answers : Answers}
    (hGives : Gives cache inv answers) {settings settings' : Settings} {opened opened' : Bool}
    (h : ∀ a d k k', inv k →
      R (attend (behind database cache) settings opened a (d, k)).1
          (attend (behind database cache') settings' opened' a (d, k')).1 ∧
        (attend (behind database cache) settings opened a (d, k)).2.1 =
          (attend (behind database cache') settings' opened' a (d, k')).2.1)
    (arrivals : List Arrival) (d : δ) {k : κ} (hk : inv k) (k' : κ') :
    List.Forall₂ R (serve (behind database cache) settings opened arrivals (d, k))
      (serve (behind database cache') settings' opened' arrivals (d, k')) := by
  induction arrivals generalizing d k k' with
  | nil => exact .nil
  | cons a arrivals ih =>
    obtain ⟨hTurn, hDatabase⟩ := h a d k k' hk
    have hAfter : inv (attend (behind database cache) settings opened a (d, k)).2.2 :=
      inv_of_run database cache hGives _ d hk
    have hState : (attend (behind database cache) settings opened a (d, k)).2 =
        ((attend (behind database cache') settings' opened' a (d, k')).2.1,
          (attend (behind database cache) settings opened a (d, k)).2.2) :=
      Prod.ext hDatabase rfl
    refine .cons hTurn ?_
    show List.Forall₂ R (serve _ settings opened arrivals (attend _ settings opened a (d, k)).2)
      (serve _ settings' opened' arrivals (attend _ settings' opened' a (d, k')).2)
    rw [hState]
    exact ih _ hAfter _

/-- From this state on, every command to the cache fails. -/
def FailsFrom (k : κ) : Prop := ∃ inv : κ → Prop, inv k ∧ Gives cache inv refusals

/-- A cache that is not there. -/
def noCache (c : Command) (_ : Unit) : c.Answer × Unit := (.error outage, ())

theorem gives_anyAnswer : Gives cache (fun _ => True) anyAnswer := fun _ _ _ => ⟨trivial, trivial⟩

/-- Where the answers of the cache go unheard, an arrival is treated as if there were no cache. -/
theorem attendView_withoutCache {inv : κ → Prop} {answers : Answers}
    (hOutage : ∀ c, answers c (.error outage)) (hGives : Gives cache inv answers)
    {settings : Settings} {opened : Bool} {a : Arrival}
    (h : Deaf answers (handle ⟨settings, opened, a.stamp⟩ a.newId a.request)) (d : δ) {k : κ}
    (hk : inv k) :
    attendView database cache settings opened a (d, k) =
      attendView database noCache settings.withoutCache false a (d, ()) := by
  rw [attendView, view_cacheless database cache noCache hOutage hGives h d hk (), cacheless_handle]
  rfl

theorem attendView_of_anyAnswer {settings : Settings} {opened : Bool} {a : Arrival}
    (h : Deaf anyAnswer (handle ⟨settings, opened, a.stamp⟩ a.newId a.request)) (d : δ) (k : κ) :
    attendView database cache settings opened a (d, k) =
      attendView database noCache settings.withoutCache false a (d, ()) :=
  attendView_withoutCache database cache (fun _ => trivial) (gives_anyAnswer cache) h d trivial

theorem plan_withoutCache (settings : Settings) (r : Request) :
    plan settings.withoutCache r = plan settings r := rfl

/-- Where there is no cache, nothing heeds one. -/
theorem deaf_lookupRoles_of_no_cache {f : Facilities} (h : f.hasCache = false)
    (user : Identity.UserId) : Deaf anyAnswer (f.lookupRoles user) := by
  rw [lookupRoles_of_no_cache h]
  exact fun reply => trivial

/-- In two runs of the same requests with the same database, all turns agree but those that leave
open which roles a token is to carry, whatever the caches do and whether there are any; and even
these agree if every command to the one cache fails and the other is not there. -/
theorem serve_agrees {settings settings' : Settings}
    (hSettings : settings.withoutCache = settings'.withoutCache) (opened opened' : Bool)
    (arrivals : List Arrival) (d : δ) (k : κ) (k' : κ') :
    ((∀ user d, (database (.rolesOf user) d).2 = d) →
        List.Forall₂
          (fun turn turn' => turn.request = turn'.request ∧
            (¬turn.request.LeavesRolesOpen settings → turn.Agrees turn'))
          (serve (behind database cache) settings opened arrivals (d, k))
          (serve (behind database cache') settings' opened' arrivals (d, k'))) ∧
      (FailsFrom cache k → (∀ stamp, (⟨settings', opened', stamp⟩ : Facilities).hasCache = false) →
        List.Forall₂ Turn.Agrees
          (serve (behind database cache) settings opened arrivals (d, k))
          (serve (behind database cache') settings' opened' arrivals (d, k'))) := by
  constructor
  · intro hReads
    refine forall₂_serve database cache cache' (gives_anyAnswer cache) ?_ arrivals d trivial k'
    intro a d k k' _
    have hPlans : plan settings a.request = plan settings' a.request := by
      rw [← plan_withoutCache settings, hSettings, plan_withoutCache]
    by_cases hOpen : ∃ subject, plan settings a.request = .task (.issueTokens subject none)
    · -- The turn is left out of account, and the database is as it was on both sides.
      obtain ⟨subject, hPlan⟩ := hOpen
      refine ⟨⟨rfl, fun hNot => absurd (leavesRolesOpen_of_plan hPlan) hNot⟩, ?_⟩
      have hLeft := view_database_of_readsRoles database cache hReads
        (readsRoles_handle ⟨settings, opened, a.stamp⟩ a.newId hPlan) d k
      have hRight := view_database_of_readsRoles database cache' hReads
        (readsRoles_handle ⟨settings', opened', a.stamp⟩ a.newId (hPlans ▸ hPlan)) d k'
      exact hLeft.trans hRight.symm
    · have hDeaf : Deaf anyAnswer (handle ⟨settings, opened, a.stamp⟩ a.newId a.request) :=
        deaf_handle fun subject hPlan => absurd ⟨subject, hPlan⟩ hOpen
      have hDeaf' : Deaf anyAnswer (handle ⟨settings', opened', a.stamp⟩ a.newId a.request) :=
        deaf_handle fun subject hPlan => absurd ⟨subject, hPlans.trans hPlan⟩ hOpen
      have hViews : attendView database cache settings opened a (d, k) =
          attendView database cache' settings' opened' a (d, k') := by
        rw [attendView_of_anyAnswer database cache hDeaf,
          attendView_of_anyAnswer database cache' hDeaf', hSettings]
      obtain ⟨hAgrees, hDatabase⟩ := agrees_of_attendView database cache cache' hViews
      exact ⟨⟨rfl, fun _ => hAgrees⟩, hDatabase⟩
  · rintro ⟨inv, hk, hGives⟩ hNone
    refine forall₂_serve database cache cache' hGives ?_ arrivals d hk k'
    intro a d k k' hk
    have hDeaf : Deaf refusals (handle ⟨settings, opened, a.stamp⟩ a.newId a.request) :=
      deaf_handle fun subject _ => deaf_lookupRoles _ subject.user
    have hDeaf' : Deaf anyAnswer (handle ⟨settings', opened', a.stamp⟩ a.newId a.request) :=
      deaf_handle fun subject _ => deaf_lookupRoles_of_no_cache (hNone a.stamp) subject.user
    apply agrees_of_attendView
    rw [attendView_withoutCache database cache (fun _ => ⟨outage, rfl⟩) hGives hDeaf d hk,
      attendView_of_anyAnswer database cache' hDeaf', hSettings]

end Runs

/-- A cache that knows the roles of user 7, and in which no command works. -/
def brokenStore : Store := ⟨[(cacheKey 7, cacheValue ["admin"])], [], [.get, .set, .delete]⟩

theorem failsFrom_brokenStore : FailsFrom Store.perform brokenStore := by
  refine ⟨fun s => s.failing = [.get, .set, .delete], rfl, ?_⟩
  intro c s hFailing
  cases c <;> simp [Store.perform, hFailing, Command.verb, refusals]

/-- An administrator asks for tokens for user 7 and gives no roles. -/
def openTokens : Arrival where
  request :=
    ⟨"POST", ⟨Utf8.encode "/api/v1/admin/tokens", none⟩,
      [Response.header "x-user-id" "1", Response.header "x-user-role" "admin",
        Response.header "content-type" "application/json"],
      Utf8.encode "\x7b\"user_id\":7,\"email\":\"e\",\"name\":\"n\"\x7d", none, ""⟩
  stamp := ⟨0, 1, "a", "r"⟩
  newId := "id"

theorem agrees_with_broken_store :
    cachedSettings.withoutCache = cachedSettings.withoutCache.withoutCache ∧
      (∀ user present, (oneUser (.rolesOf user) present).2 = present) ∧
      FailsFrom Store.perform brokenStore ∧
      (∀ stamp, (⟨cachedSettings.withoutCache, false, stamp⟩ : Facilities).hasCache = false) ∧
      List.Forall₂
        (fun turn turn' => turn.request = turn'.request ∧
          (¬turn.request.LeavesRolesOpen cachedSettings → turn.Agrees turn'))
        (serve (behind oneUser Store.perform) cachedSettings true [openTokens, ownDeletion]
          (true, brokenStore))
        (serve (behind oneUser noCache) cachedSettings.withoutCache false [openTokens, ownDeletion]
          (true, ())) ∧
      List.Forall₂ Turn.Agrees
        (serve (behind oneUser Store.perform) cachedSettings true [openTokens, ownDeletion]
          (true, brokenStore))
        (serve (behind oneUser noCache) cachedSettings.withoutCache false [openTokens, ownDeletion]
          (true, ())) := by
  have hReads : ∀ user present, (oneUser (.rolesOf user) present).2 = present := fun _ _ => rfl
  have hNone : ∀ stamp, (⟨cachedSettings.withoutCache, false, stamp⟩ : Facilities).hasCache = false :=
    fun _ => rfl
  have hSettings : cachedSettings.withoutCache = cachedSettings.withoutCache.withoutCache := rfl
  obtain ⟨hOthers, hAll⟩ := serve_agrees oneUser Store.perform noCache hSettings true false
    [openTokens, ownDeletion] true brokenStore ()
  exact ⟨hSettings, hReads, failsFrom_brokenStore, hNone, hOthers hReads,
    hAll failsFrom_brokenStore hNone⟩

end Gatehouse.Service
