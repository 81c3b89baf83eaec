import Gatehouse.Proofs.Service.Handling
import Gatehouse.Proofs.Service.View
import Gatehouse.Proofs.Token.Issuer

/-! The service without its cache.  A service whose cache does nothing is the service that has no
cache in its settings, request by request.  No request heeds with which error the cache fails, and
only one for tokens without roles heeds anything of what the cache says. -/

namespace Gatehouse

/-- The settings without a cache. -/
def Settings.withoutCache (s : Settings) : Settings :=
  { s with cacheUrl := none, roleCacheTtl := 0 }

namespace Service

open Cache Roles Token

/-- The same service without a cache. -/
def Facilities.withoutCache (f : Facilities) : Facilities :=
  ⟨f.settings.withoutCache, false, f.stamp⟩

/-- What a lookup through the cache does with an answer of the database: it stores roles. -/
def Facilities.storeRoles (f : Facilities) (user : Identity.UserId) :
    LookupAnswer → Action LookupAnswer
  | .roles names =>
    .ask (.cache (.set (cacheKey user) (cacheValue names) f.settings.roleCacheTtl))
      fun _ => .done (.roles names)
  | answer => .done answer

theorem lookupRoles_of_cache {f : Facilities} (h : f.hasCache = true) (user : Identity.UserId) :
    f.lookupRoles user =
      .ask (.cache (.get (cacheKey user))) fun entry =>
        match cachedRoles entry with
        | some names => .done (.roles names)
        | none => .ask (.statement (.rolesOf user)) fun reply => f.storeRoles user reply.roles := by
  rw [Facilities.lookupRoles, if_pos h]
  refine congrArg (Dialogue.ask _) (funext fun entry => ?_)
  simp only [Dialogue.bind]
  cases cachedRoles entry with
  | some names => rfl
  | none =>
    refine congrArg (Dialogue.ask _) (funext fun reply => ?_)
    simp only [Dialogue.bind]
    cases reply.roles <;> rfl

theorem lookupRoles_of_no_cache {f : Facilities} (h : f.hasCache = false)
    (user : Identity.UserId) :
    f.lookupRoles user = .ask (.statement (.rolesOf user)) fun reply => .done reply.roles := by
  rw [Facilities.lookupRoles, h]
  rfl

theorem cacheless_storeRoles (f : Facilities) (user : Identity.UserId) (answer : LookupAnswer) :
    cacheless (f.storeRoles user answer) = .done answer := by
  cases answer <;> rfl

theorem cacheless_lookupRoles (f : Facilities) (user : Identity.UserId) :
    cacheless (f.lookupRoles user) = f.withoutCache.lookupRoles user := by
  have hWithout : f.withoutCache.hasCache = false := rfl
  rw [lookupRoles_of_no_cache hWithout]
  cases hCache : f.hasCache with
  | false =>
    rw [lookupRoles_of_no_cache hCache]
    rfl
  | true =>
    rw [lookupRoles_of_cache hCache]
    exact congrArg (Dialogue.ask _) (funext fun reply => cacheless_storeRoles f user reply.roles)

/-- The answer with a pair of tokens, or without one. -/
def answerPair (pair : Except ApiError TokenPair) : Response :=
  match pair with
  | .ok pair => .json 200 pair.toJson
  | .error e => .ofError e

/-- The answer to a request for tokens once the roles are known, or known to be lacking. -/
def Facilities.answerTokens (f : Facilities) (subject : Subject)
    (roles : Except ApiError (List String)) : Response :=
  answerPair ((roles.bind (f.issuer.accessToken f.stamp subject)).bind fun accessToken =>
    (f.issuer.refreshToken f.stamp subject.user).map fun refreshToken =>
      ⟨accessToken, refreshToken, f.issuer.settings.accessTtl⟩)

/-- The roles in the answer of a lookup. -/
def Facilities.rolesIn (f : Facilities) (answer : LookupAnswer) : Except ApiError (List String) :=
  (answer.within f.issuer.lookupTimeout).mapError fun _ => .roleLookupFailed

theorem perform_issueTokens (f : Facilities) (subject : Subject) (roles : Option (List String)) :
    perform f (.issueTokens subject roles) =
      (f.issuer.issuePair f.stamp subject roles).bind fun pair => .done (answerPair pair) := by
  refine congrArg (f.issuer.issuePair f.stamp subject roles).bind (funext fun pair => ?_)
  cases pair <;> rfl

theorem perform_issueTokens_some (f : Facilities) (subject : Subject) (roles : List String) :
    perform f (.issueTokens subject (some roles)) = .done (f.answerTokens subject (.ok roles)) :=
  perform_issueTokens f subject (some roles)

theorem perform_issueTokens_none (f : Facilities) (subject : Subject) :
    perform f (.issueTokens subject none) =
      (f.lookupRoles subject.user).bind fun answer =>
        .done (f.answerTokens subject (f.rolesIn answer)) := by
  rw [perform_issueTokens, issuePair_lookup f.issuer f.stamp subject rfl, Dialogue.bind_assoc]
  refine congrArg (f.lookupRoles subject.user).bind (funext fun answer => ?_)
  cases answer <;> rfl

theorem cacheless_perform (f : Facilities) (task : Task) :
    cacheless (perform f task) = perform f.withoutCache task := by
  cases task with
  | health => rfl
  | showUser user => rfl
  | updateUser user name email => rfl
  | deleteUser user =>
    refine congrArg (Dialogue.ask _) (funext fun reply => ?_)
    simp only [Dialogue.bind]
    split
    · rfl
    · rfl
    · have hWithout : f.withoutCache.hasCache = false := rfl
      rw [hWithout]
      cases f.hasCache <;> rfl
  | listUsers name limit offset =>
    refine congrArg (Dialogue.ask _) (funext fun reply => ?_)
    simp only [Dialogue.bind]
    split <;> rfl
  | createUser name email =>
    refine congrArg (Dialogue.ask _) (funext fun reply => ?_)
    simp only [Dialogue.bind]
    split <;> rfl
  | issueTokens subject roles =>
    cases roles with
    | some roles =>
      rw [perform_issueTokens_some, perform_issueTokens_some]
      rfl
    | none =>
      rw [perform_issueTokens_none, perform_issueTokens_none, cacheless_bind,
        cacheless_lookupRoles]
      rfl

theorem cacheless_handle (f : Facilities) (newId : String) (r : Request) :
    cacheless (handle f newId r) = handle f.withoutCache newId r := by
  by_cases hLimit : exceedsLimit f.settings r.headers = true
  · rw [handle_of_exceedsLimit f newId r hLimit,
      handle_of_exceedsLimit f.withoutCache newId r hLimit]
    rfl
  rw [Bool.not_eq_true] at hLimit
  by_cases hOptions : r.method = "OPTIONS"
  · rw [handle_of_options f newId r hLimit hOptions,
      handle_of_options f.withoutCache newId r hLimit hOptions]
    rfl
  · have hPlan : plan f.withoutCache.settings r = plan f.settings r := rfl
    rw [handle_eq f newId r hLimit hOptions, handle_eq f.withoutCache newId r hLimit hOptions,
      hPlan, cacheless_bind]
    cases plan f.settings r with
    | answer response => rfl
    | task task =>
      simp only [carryOut, cacheless_perform]
      rfl

theorem deaf_perform {answers : Answers} {f : Facilities} {task : Task}
    (h : ∀ subject, task = .issueTokens subject none → Deaf answers (f.lookupRoles subject.user)) :
    Deaf answers (perform f task) := by
  cases task with
  | health => trivial
  | showUser user => exact fun reply => trivial
  | updateUser user name email => exact fun reply => trivial
  | deleteUser user =>
    intro reply
    simp only [Dialogue.bind]
    split
    · trivial
    · trivial
    · split
      · exact ⟨fun _ _ _ _ => rfl, fun _ _ => trivial⟩
      · trivial
  | listUsers name limit offset =>
    intro reply
    simp only [Dialogue.bind]
    split <;> trivial
  | createUser name email =>
    intro reply
    simp only [Dialogue.bind]
    split <;> trivial
  | issueTokens subject roles =>
    cases roles with
    | some roles =>
      rw [perform_issueTokens_some]
      trivial
    | none =>
      rw [perform_issueTokens_none]
      exact (h subject rfl).bind fun _ => trivial

theorem deaf_handle {answers : Answers} {f : Facilities} {newId : String} {r : Request}
    (h : ∀ subject, plan f.settings r = .task (.issueTokens subject none) →
      Deaf answers (f.lookupRoles subject.user)) : Deaf answers (handle f newId r) := by
  rcases handle_cases f newId r with ⟨response, hDone, -⟩ | hPlan
  · rw [hDone]
    trivial
  · rw [hPlan]
    refine Deaf.bind ?_ fun _ => trivial
    cases hCase : plan f.settings r with
    | answer response => trivial
    | task task => exact deaf_perform fun subject hTask => h subject (by rw [hCase, hTask])

theorem deaf_storeRoles (f : Facilities) (user : Identity.UserId) (answer : LookupAnswer) :
    Deaf refusals (f.storeRoles user answer) := by
  cases answer with
  | roles names => exact ⟨fun _ _ _ _ => rfl, fun _ _ => trivial⟩
  | failed e => trivial
  | silent => trivial

/-- A lookup does not ask with which error the cache fails. -/
theorem deaf_lookupRoles (f : Facilities) (user : Identity.UserId) :
    Deaf refusals (f.lookupRoles user) := by
  cases hCache : f.hasCache with
  | false =>
    rw [lookupRoles_of_no_cache hCache]
    exact fun reply => trivial
  | true =>
    rw [lookupRoles_of_cache hCache]
    constructor
    · rintro _ _ ⟨e, rfl⟩ ⟨e', rfl⟩
      rfl
    · rintro _ ⟨e, rfl⟩ reply
      exact deaf_storeRoles f user reply.roles

theorem storeRoles_asks {P : Call → Prop} (f : Facilities) (user : Identity.UserId)
    (hSet : ∀ value ttl, P (.cache (.set (cacheKey user) value ttl))) (answer : LookupAnswer) :
    (f.storeRoles user answer).Asks P := by
  cases answer with
  | roles names => exact ⟨hSet _ _, fun _ => trivial⟩
  | failed e => trivial
  | silent => trivial

/-- A lookup makes no other calls than these. -/
theorem lookupRoles_asks {P : Call → Prop} (f : Facilities) (user : Identity.UserId)
    (hGet : P (.cache (.get (cacheKey user)))) (hRead : P (.statement (.rolesOf user)))
    (hSet : ∀ value ttl, P (.cache (.set (cacheKey user) value ttl))) :
    (f.lookupRoles user).Asks P := by
  cases hCache : f.hasCache with
  | false =>
    rw [lookupRoles_of_no_cache hCache]
    exact ⟨hRead, fun reply => trivial⟩
  | true =>
    rw [lookupRoles_of_cache hCache]
    refine ⟨hGet, fun entry => ?_⟩
    dsimp only
    split
    · trivial
    · exact ⟨hRead, fun reply => storeRoles_asks f user hSet reply.roles⟩

theorem readsRoles_lookupRoles (f : Facilities) (user : Identity.UserId) :
    (f.lookupRoles user).Asks ReadsRoles :=
  lookupRoles_asks f user trivial ⟨user, rfl⟩ fun _ _ => trivial

/-- A request for tokens without roles reads roles and nothing else. -/
theorem readsRoles_handle (f : Facilities) (newId : String) {r : Request} {subject : Subject}
    (h : plan f.settings r = .task (.issueTokens subject none)) :
    (handle f newId r).Asks ReadsRoles := by
  rcases handle_cases f newId r with ⟨response, hDone, -⟩ | hPlan
  · rw [hDone]
    trivial
  · rw [hPlan, h, carryOut, perform_issueTokens_none]
    refine Dialogue.Asks.bind (Dialogue.Asks.bind (readsRoles_lookupRoles f subject.user) ?_) ?_
    · exact fun answer => trivial
    · exact fun response => trivial

end Service

end Gatehouse
