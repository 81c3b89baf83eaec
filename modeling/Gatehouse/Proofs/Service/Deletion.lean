import Gatehouse.Proofs.Roles.Cached
import Gatehouse.Proofs.Service.CacheIndependence
import Gatehouse.Proofs.Service.Statements

/-! What becomes of the cached roles of a user who is deleted.  They leave the cache with the user,
and nothing but a lookup for the same user puts any back, so the next tokens for the user carry what
the database says.  Where there was no such user, the cache is left alone. -/

namespace Gatehouse.Service

open Cache Dialogue Identity Roles Token

/-- The call stores nothing under the key. -/
def Spares (key : String) (q : Call) : Prop := ∀ value ttl, q ≠ .cache (.set key value ttl)

theorem spares_statement (key : String) (s : Statement) : Spares key (.statement s) := nofun

theorem spares_get (key other : String) : Spares key (.cache (.get other)) := nofun

theorem spares_delete (key other : String) : Spares key (.cache (.delete other)) := nofun

theorem lookup_perform {store : Store} {c : Command} {key text : String}
    (h : (store.perform c).2.entries.lookup key = some text) :
    store.entries.lookup key = some text ∨ ∃ ttl, c = .set key text ttl := by
  cases c with
  | get other =>
    rw [Store.perform_get] at h
    exact .inl h
  | set other value ttl =>
    rw [Store.entries_perform_set] at h
    split at h
    · exact .inl h
    · by_cases hOwn : key = other
      · subst hOwn
        rw [lookup_put_self] at h
        cases h
        exact .inr ⟨ttl, rfl⟩
      · rw [lookup_put_of_ne hOwn] at h
        exact .inl h
  | delete other =>
    rw [Store.entries_perform_delete] at h
    split at h
    · exact .inl h
    · by_cases hOwn : key = other
      · subst hOwn
        rw [lookup_erase_self] at h
        cases h
      · rw [lookup_erase_of_ne hOwn] at h
        exact .inl h

theorem lookup_perform_eq_none {store : Store} {c : Command} {key : String}
    (h : store.entries.lookup key = none) (hSpares : Spares key (.cache c)) :
    (store.perform c).2.entries.lookup key = none := by
  cases hAfter : (store.perform c).2.entries.lookup key with
  | none => rfl
  | some text =>
    rcases lookup_perform hAfter with hBefore | ⟨ttl, rfl⟩
    · rw [h] at hBefore
      cases hBefore
    · exact absurd rfl (hSpares text ttl)

/-! ### Requests that leave a missing entry missing -/

theorem spares_deleteUser (f : Facilities) (user : UserId) (key : String) :
    (perform f (.deleteUser user)).Asks (Spares key) :=
  perform_asks f (fun _ _ => spares_statement _ _) (fun _ => spares_delete _ _) nofun

theorem spares_lookupRoles (f : Facilities) {user other : UserId} (h : other ≠ user) :
    (f.lookupRoles other).Asks (Spares (cacheKey user)) := by
  refine lookupRoles_asks f other (spares_get _ _) (spares_statement _ _) ?_
  intro value ttl value' ttl' hSame
  have hCommand := Call.cache.inj hSame
  exact h (cacheKey_injective (Command.set.inj hCommand).1)

/-- The request asks for tokens for the user and leaves open which roles they are to carry. -/
def Request.LooksUp (settings : Settings) (user : UserId) (r : Request) : Prop :=
  ∃ subject : Subject, subject.user = user ∧ plan settings r = .task (.issueTokens subject none)

theorem spares_perform (f : Facilities) {task : Task} {user : UserId}
    (h : ∀ subject : Subject, subject.user = user → task ≠ .issueTokens subject none) :
    (perform f task).Asks (Spares (cacheKey user)) := by
  refine perform_asks f (fun _ _ => spares_statement _ _) (fun _ => spares_delete _ _) ?_
  intro subject hTask
  exact spares_lookupRoles f fun hSame => h subject hSame hTask

theorem spares_handle (f : Facilities) (newId : String) {r : Request} {user : UserId}
    (h : ¬r.LooksUp f.settings user) : (handle f newId r).Asks (Spares (cacheKey user)) := by
  rcases handle_cases f newId r with ⟨response, hDone, -⟩ | hPlan
  · rw [hDone]
    trivial
  · rw [hPlan]
    refine Asks.bind ?_ fun _ => trivial
    cases hCase : plan f.settings r with
    | answer response => trivial
    | task task =>
      refine spares_perform f fun subject hUser hTask => h ⟨subject, hUser, ?_⟩
      rw [hCase, hTask]

section Runs

variable {δ : Type} (database : Statement → δ → Option Reply × δ)

theorem lookup_run_eq_none {α : Type} {key : String} {action : Action α}
    (hAsks : action.Asks (Spares key)) (d : δ) {store : Store}
    (h : store.entries.lookup key = none) :
    (action.run (behind database Store.perform) (d, store)).2.2.entries.lookup key = none := by
  induction action generalizing d store with
  | done a => exact h
  | ask q next ih =>
    obtain ⟨hFirst, hNext⟩ := hAsks
    cases q with
    | statement s =>
      simp only [Dialogue.run, behind]
      cases database s d with
      | mk reply d =>
        cases reply with
        | none => exact h
        | some reply => exact ih reply (hNext reply) d h
    | cache c => exact ih _ (hNext _) d (lookup_perform_eq_none h hFirst)

/-- The state with other kinds of commands that fail. -/
def withFailing (verbs : List Verb) (s : δ × Store) : δ × Store :=
  (s.1, { s.2 with failing := verbs })

/-- The service goes through arrivals; before each of them it may change which commands fail. -/
def pass (settings : Settings) (opened : Bool) (arrivals : List (List Verb × Arrival))
    (s : δ × Store) : δ × Store :=
  arrivals.foldl
    (fun s a => (attend (behind database Store.perform) settings opened a.2 (withFailing a.1 s)).2) s

theorem lookup_pass_eq_none {settings : Settings} (opened : Bool)
    {arrivals : List (List Verb × Arrival)} {user : UserId}
    (hSpare : ∀ a ∈ arrivals, ¬a.2.request.LooksUp settings user) {s : δ × Store}
    (h : s.2.entries.lookup (cacheKey user) = none) :
    (pass database settings opened arrivals s).2.entries.lookup (cacheKey user) = none := by
  induction arrivals generalizing s with
  | nil => exact h
  | cons a arrivals ih =>
    obtain ⟨hFirst, hOthers⟩ := List.forall_mem_cons.mp hSpare
    refine ih hOthers ?_
    exact lookup_run_eq_none database (spares_handle ⟨settings, opened, a.2.stamp⟩ a.2.newId hFirst)
      s.1 h

/-! ### Deletions and lookups -/

/-- That an answer is stored is not seen. -/
theorem view_storeRoles {α : Type} (f : Facilities) (user : UserId) (answer : LookupAnswer)
    (g : LookupAnswer → α) (d : δ) (store : Store) :
    view database Store.perform ((f.storeRoles user answer).bind fun answer => .done (g answer))
        (d, store) =
      view database noCache (.done (g answer)) (d, ()) := by
  cases answer <;> rfl

/-- A lookup that finds no entry goes on as if there were no cache. -/
theorem view_lookupRoles_of_none {α : Type} (f : Facilities) {user : UserId} {store : Store}
    (h : store.entries.lookup (cacheKey user) = none) (g : LookupAnswer → α) (d : δ) :
    view database Store.perform ((f.lookupRoles user).bind fun answer => .done (g answer)) (d, store) =
      view database noCache
        ((f.withoutCache.lookupRoles user).bind fun answer => .done (g answer)) (d, ()) := by
  have hWithout : f.withoutCache.hasCache = false := rfl
  have hMissing : cachedRoles (store.perform (.get (cacheKey user))).1 = none := by
    rw [Store.perform_get, h]
    split <;> rfl
  rw [lookupRoles_of_no_cache hWithout]
  cases hCache : f.hasCache with
  | false =>
    rw [lookupRoles_of_no_cache hCache]
    simp only [Dialogue.bind, view_statement]
    cases database (.rolesOf user) d with
    | mk reply d => cases reply <;> rfl
  | true =>
    rw [lookupRoles_of_cache hCache]
    simp only [Dialogue.bind, view_cache, hMissing, view_statement]
    cases database (.rolesOf user) d with
    | mk reply d =>
      cases reply with
      | none => rfl
      | some reply => simp only [view_storeRoles]

/-- Tokens for a user who has no entry are issued as if there were no cache. -/
theorem attendView_of_looksUp {settings : Settings} (opened : Bool) {a : Arrival} {user : UserId}
    (hLooksUp : a.request.LooksUp settings user) {store : Store}
    (h : store.entries.lookup (cacheKey user) = none) (d : δ) :
    attendView database Store.perform settings opened a (d, store) =
      attendView database noCache settings.withoutCache false a (d, ()) := by
  obtain ⟨subject, rfl, hPlan⟩ := hLooksUp
  have hPlan' : plan settings.withoutCache a.request = .task (.issueTokens subject none) := hPlan
  unfold attendView
  by_cases hLimit : exceedsLimit settings a.request.headers = true
  · rw [handle_of_exceedsLimit ⟨settings, opened, a.stamp⟩ _ _ hLimit,
      handle_of_exceedsLimit ⟨settings.withoutCache, false, a.stamp⟩ _ _ hLimit]
    rfl
  rw [Bool.not_eq_true] at hLimit
  by_cases hOptions : a.request.method = "OPTIONS"
  · rw [handle_of_options ⟨settings, opened, a.stamp⟩ _ _ hLimit hOptions,
      handle_of_options ⟨settings.withoutCache, false, a.stamp⟩ _ _ hLimit hOptions]
    rfl
  rw [handle_eq ⟨settings, opened, a.stamp⟩ _ _ hLimit hOptions,
    handle_eq ⟨settings.withoutCache, false, a.stamp⟩ _ _ hLimit hOptions, hPlan, hPlan', carryOut,
    carryOut, perform_issueTokens_none, perform_issueTokens_none, Dialogue.bind_assoc,
    Dialogue.bind_assoc]
  exact view_lookupRoles_of_none database ⟨settings, opened, a.stamp⟩ h _ d

/-- What a deletion leaves in the cache depends on whether there was a user. -/
theorem run_deleteUser {f : Facilities} (hCache : f.hasCache = true) (user : UserId) (d : δ)
    {store : Store} (hWorks : Verb.delete ∉ store.failing) {response : Response} {s' : δ × Store}
    (h : (perform f (.deleteUser user)).run (behind database Store.perform) (d, store) =
      (some response, s')) :
    (response.status = 204 → s'.2.entries = erase (cacheKey user) store.entries) ∧
      (response.status = 404 → s'.2 = store) := by
  simp only [perform, query, Dialogue.bind_eq, Dialogue.question, Dialogue.bind, Dialogue.run,
    behind] at h
  cases hReply : database (.deleteUser user) d with
  | mk reply after =>
    rw [hReply] at h
    cases reply with
    | none => cases h
    | some reply =>
      simp only at h
      cases hDeleted : reply.deleted with
      | error e =>
        rw [hDeleted] at h
        cases h
        cases e <;> exact ⟨fun h => absurd h (by decide), fun h => absurd h (by decide)⟩
      | ok wasThere =>
        rw [hDeleted] at h
        cases wasThere with
        | false =>
          cases h
          exact ⟨fun h => absurd h (by decide), fun _ => rfl⟩
        | true =>
          simp only [hCache, if_true] at h
          cases h
          refine ⟨fun _ => ?_, fun h => absurd h (by decide)⟩
          show (store.perform (.delete (cacheKey user))).2.entries = _
          rw [Store.entries_perform_delete, if_neg hWorks]

/-- What becomes of the cache when a user is to be deleted. -/
theorem store_of_deletion {settings : Settings} {opened : Bool} {a : Arrival} {user : UserId}
    (hCache : (⟨settings, opened, a.stamp⟩ : Facilities).hasCache = true)
    (hPlan : plan settings a.request = .task (.deleteUser user)) {s : δ × Store}
    (hWorks : Verb.delete ∉ s.2.failing) :
    ((attend (behind database Store.perform) settings opened a s).1.response.status = 204 →
        (attend (behind database Store.perform) settings opened a s).2.2.entries =
          erase (cacheKey user) s.2.entries) ∧
      ((attend (behind database Store.perform) settings opened a s).1.response.status = 404 →
        (attend (behind database Store.perform) settings opened a s).2.2 = s.2) := by
  rcases attend_of_task (behind database Store.perform) opened hPlan s with
    hOutright | hTimeout | ⟨response, s', hRun, hStatus, hState⟩
  · simp only [List.mem_cons, List.not_mem_nil, or_false] at hOutright
    constructor
    · intro hStatus
      omega
    · intro hStatus
      omega
  · rw [hTimeout]
    exact ⟨nofun, nofun⟩
  · rw [hStatus, hState]
    exact run_deleteUser database hCache user s.1 hWorks hRun

/-- Where a user was deleted, the cache has lost the user's entry, and the next request for tokens
for the user that leaves their roles open is answered as if there were no cache, whatever other
requests come before it.  Where there was no user, the cache is as it was. -/
theorem roles_reread_after_deletion {settings : Settings} {opened : Bool} {deletion : Arrival}
    {user : UserId} (hCache : (⟨settings, opened, deletion.stamp⟩ : Facilities).hasCache = true)
    (hPlan : plan settings deletion.request = .task (.deleteUser user)) {s s' : δ × Store}
    {turn : Turn} (hWorks : Verb.delete ∉ s.2.failing)
    (hTurn : attend (behind database Store.perform) settings opened deletion s = (turn, s')) :
    (turn.response.status = 404 → s'.2 = s.2) ∧
      (turn.response.status = 204 →
        s'.2.entries.lookup (cacheKey user) = none ∧
        ∀ (between : List (List Verb × Arrival)) (verbs : List Verb) (next : Arrival),
          (∀ a ∈ between, ¬a.2.request.LooksUp settings user) →
          next.request.LooksUp settings user →
          let s := withFailing verbs (pass database settings opened between s')
          (attend (behind database Store.perform) settings opened next s).1.Agrees
            (attend (behind database noCache) settings.withoutCache false next (s.1, ())).1) := by
  have hStore := store_of_deletion database hCache hPlan hWorks
  rw [hTurn] at hStore
  obtain ⟨hDeleted, hMissing⟩ := hStore
  refine ⟨hMissing, fun hStatus => ?_⟩
  have hNone : s'.2.entries.lookup (cacheKey user) = none := by
    rw [hDeleted hStatus]
    exact lookup_erase_self _ _
  refine ⟨hNone, fun between verbs next hBetween hNext => ?_⟩
  have hStill : (withFailing verbs (pass database settings opened between s')).2.entries.lookup
      (cacheKey user) = none := lookup_pass_eq_none database opened hBetween hNone
  have hViews := attendView_of_looksUp database opened hNext hStill
    (pass database settings opened between s').1
  exact (agrees_of_attendView database Store.perform noCache hViews).1

end Runs

/-- A cache with a role of user 7. -/
def leftover : Store := .ofEntries [(cacheKey 7, cacheValue ["admin"])]

theorem plan_ownDeletion : plan cachedSettings ownDeletion.request = .task (.deleteUser 7) := rfl

theorem roles_reread_after_own_deletion :
    (⟨cachedSettings, true, ownDeletion.stamp⟩ : Facilities).hasCache = true ∧
      plan cachedSettings ownDeletion.request = .task (.deleteUser 7) ∧
      Verb.delete ∉ leftover.failing ∧
      ∃ turn s',
        attend (behind oneUser Store.perform) cachedSettings true ownDeletion (true, leftover) =
          (turn, s') ∧
        turn.response.status = 204 ∧ s'.2.entries.lookup (cacheKey 7) = none ∧
        ¬ownDeletion.request.LooksUp cachedSettings 7 ∧
        openTokens.request.LooksUp cachedSettings 7 ∧
        let s := withFailing [.set] (pass oneUser cachedSettings true [([.delete], ownDeletion)] s')
        (attend (behind oneUser Store.perform) cachedSettings true openTokens s).1.Agrees
          (attend (behind oneUser noCache) cachedSettings.withoutCache false openTokens (s.1, ())).1 := by
  have hOther : ¬ownDeletion.request.LooksUp cachedSettings 7 := by
    rintro ⟨subject, -, hPlan⟩
    rw [plan_ownDeletion] at hPlan
    cases hPlan
  have hOpen : openTokens.request.LooksUp cachedSettings 7 := ⟨_, rfl, rfl⟩
  have hTurn : attend (behind oneUser Store.perform) cachedSettings true ownDeletion
      (true, leftover) = (_, _) := rfl
  obtain ⟨-, hReread⟩ :=
    roles_reread_after_deletion oneUser rfl plan_ownDeletion List.not_mem_nil hTurn
  obtain ⟨hNone, hNext⟩ := hReread rfl
  exact ⟨rfl, plan_ownDeletion, List.not_mem_nil, _, _, hTurn, rfl, hNone, hOther, hOpen,
    hNext [([.delete], ownDeletion)] [.set] openTokens (by simpa using hOther) hOpen⟩

/-- Nobody is user 7 any more.  Another attempt to delete the user leaves the role in the cache, and
tokens for the user are issued without asking the database. -/
theorem stale_roles_after_missing_deletion :
    ∃ turn s',
      attend (behind oneUser Store.perform) cachedSettings true ownDeletion (false, leftover) =
        (turn, s') ∧
      turn.response.status = 404 ∧
      s'.2.entries.lookup (cacheKey 7) = some (cacheValue ["admin"]) ∧
      (attend (behind oneUser Store.perform) cachedSettings true openTokens s').1.calls =
        [.cache (.get (cacheKey 7))] :=
  ⟨_, _, rfl, rfl, rfl, rfl⟩

end Gatehouse.Service
