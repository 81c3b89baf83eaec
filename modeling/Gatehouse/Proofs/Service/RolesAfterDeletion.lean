import Gatehouse.Proofs.Interleaving
import Gatehouse.Proofs.Service.Deletion

/-! Lookups and deletions of users that run at the same time.  They share a database and a cache,
and take turns in asking.  What a lookup finds in the cache after a deletion was put there after it,
but it may have been read before. -/

namespace Gatehouse.Service

open Cache Dialogue Identity Roles

/-- What a concurrent request does with the roles of a user. -/
inductive Work where
  | lookup (user : UserId)
  | deletion (user : UserId)

/-- A lookup comes to its answer, and a deletion to none. -/
def Work.action (f : Facilities) : Work → Action (Option LookupAnswer)
  | lookup user => (f.lookupRoles user).bind fun answer => .done (some answer)
  | deletion user => (perform f (.deleteUser user)).bind fun _ => .done none

abbrev CallEvent (ι : Type) := Event ι Call Call.Answer

variable {ι : Type}

/-- The first event of a deletion. -/
abbrev deletes (user : UserId) (j : ι) (reply : Reply) : CallEvent ι :=
  ⟨j, .statement (.deleteUser user), reply⟩

/-- The second event of a deletion: the cache takes the entry of the user out. -/
abbrev takesOut (user : UserId) (j : ι) : CallEvent ι :=
  ⟨j, .cache (.delete (cacheKey user)), .ok ()⟩

/-- Among the events, a lookup reads these roles of the user in the database. -/
def Reads (user : UserId) (names : List String) (i : ι) (events : List (CallEvent ι)) : Prop :=
  ∃ reply : Reply, ⟨i, .statement (.rolesOf user), reply⟩ ∈ events ∧ reply.roles = .roles names

/-- Among the events, a lookup stores these roles of the user in the cache. -/
def Stores (user : UserId) (names : List String) (i : ι) (events : List (CallEvent ι)) : Prop :=
  ∃ ttl answer,
    ⟨i, .cache (.set (cacheKey user) (cacheValue names) ttl), answer⟩ ∈ events

/-! ### One call by itself -/

section Calls

variable {f : Facilities} {user : UserId} {i : ι} {events : List (CallEvent ι)}
  {d : Action (Option LookupAnswer)}

/-- What a lookup does with roles from the database: it stores them. -/
def afterRead (f : Facilities) (user : UserId) (reply : Reply) : Action (Option LookupAnswer) :=
  match reply.roles with
  | .roles names =>
    .ask (.cache (.set (cacheKey user) (cacheValue names) f.settings.roleCacheTtl))
      fun _ => .done (some (.roles names))
  | answer => .done (some answer)

theorem action_lookup (hCache : f.hasCache = true) :
    (Work.lookup user).action f =
      .ask (.cache (.get (cacheKey user))) fun answer =>
        match cachedRoles answer with
        | some names => .done (some (.roles names))
        | none => .ask (.statement (.rolesOf user)) (afterRead f user) := by
  rw [Work.action, lookupRoles_of_cache hCache]
  refine congrArg (Dialogue.ask _) (funext fun answer => ?_)
  dsimp only
  cases cachedRoles answer with
  | some names => rfl
  | none =>
    refine congrArg (Dialogue.ask _) (funext fun reply => ?_)
    dsimp only
    rw [afterRead]
    cases reply.roles <;> rfl

/-- A deletion stores nothing. -/
theorem not_stores_of_deletion (h : Path i ((Work.deletion user).action f) events d)
    {key value : String} {ttl : UInt64} {answer : (Command.set key value ttl).Answer} :
    ⟨i, .cache (.set key value ttl), answer⟩ ∉ events := by
  have hSpares : ((Work.deletion user).action f).Asks (Spares key) :=
    (spares_deleteUser f user key).bind fun _ => trivial
  intro hMem
  exact h.asks hSpares _ hMem rfl value ttl rfl

/-- What a lookup stores it has read, and it stores it for its user. -/
theorem reads_of_set (hCache : f.hasCache = true)
    (h : Path i ((Work.lookup user).action f) events d) {key value : String} {ttl : UInt64}
    {answer : (Command.set key value ttl).Answer}
    (hSet : ⟨i, .cache (.set key value ttl), answer⟩ ∈ events) :
    ∃ names, key = cacheKey user ∧ value = cacheValue names ∧ Reads user names i events := by
  rw [action_lookup hCache] at h
  obtain ⟨entry, -, hFirst | ⟨later, hLater, hSetLater, hAfterGet⟩⟩ := h.mem_of_ask hSet rfl
  · cases hFirst
  cases hCached : cachedRoles entry with
  | some names =>
    rw [hCached] at hAfterGet
    exact absurd rfl (hAfterGet.of_done.2 _ hSetLater)
  | none =>
    rw [hCached] at hAfterGet
    obtain ⟨reply, hRead, hSecond | ⟨last, hLast, hSetLast, hAfterRead⟩⟩ :=
      hAfterGet.mem_of_ask hSetLater rfl
    · cases hSecond
    unfold afterRead at hAfterRead
    split at hAfterRead
    · rename_i names hRoles
      obtain ⟨_, -, hThird | ⟨rest, -, hSetRest, hDone⟩⟩ := hAfterRead.mem_of_ask hSetLast rfl
      · cases hThird
        exact ⟨names, rfl, rfl, reply, hLater hRead, hRoles⟩
      · exact absurd rfl (hDone.of_done.2 _ hSetRest)
    · exact absurd rfl (hAfterRead.of_done.2 _ hSetLast)

theorem exists_text_of_cachedRoles {entry : Except CacheError (Option String)}
    {names : List String} (h : cachedRoles entry = some names) :
    ∃ text, entry = .ok (some text) ∧ Json.texts? text = some names := by
  match entry, h with
  | .ok (some text), h => exact ⟨text, rfl, h⟩

/-- Roles that a lookup answers with are in the entry that it was given, or it has read them. -/
theorem entry_or_reads_of_done (hCache : f.hasCache = true) {names : List String}
    (h : Path i ((Work.lookup user).action f) events (.done (some (.roles names)))) :
    (∃ text, ⟨i, .cache (.get (cacheKey user)), .ok (some text)⟩ ∈ events ∧
      Json.texts? text = some names) ∨ Reads user names i events := by
  rw [action_lookup hCache] at h
  obtain ⟨entry, later, hGet, hLater, hAfterGet⟩ := h.done_of_ask
  cases hCached : cachedRoles entry with
  | some found =>
    rw [hCached] at hAfterGet
    cases hAfterGet.of_done.1
    obtain ⟨text, rfl, hText⟩ := exists_text_of_cachedRoles hCached
    exact .inl ⟨text, hGet, hText⟩
  | none =>
    rw [hCached] at hAfterGet
    obtain ⟨reply, last, hRead, hLast, hAfterRead⟩ := hAfterGet.done_of_ask
    unfold afterRead at hAfterRead
    split at hAfterRead
    · rename_i found hRoles
      obtain ⟨_, rest, -, -, hDone⟩ := hAfterRead.done_of_ask
      cases hDone.of_done.1
      exact .inr ⟨reply, hLater hRead, hRoles⟩
    · have hAnswer : LookupAnswer.roles names = reply.roles :=
        Option.some.inj (Dialogue.done.inj hAfterRead.of_done.1)
      exact .inr ⟨reply, hLater hRead, hAnswer.symm⟩

end Calls

/-! ### All calls together -/

section Runs

variable [DecidableEq ι] {δ : Type} {database : Statement → δ → Option Reply × δ} {f : Facilities}
  {calls : ι → Work} {talks talks' : ι → Action (Option LookupAnswer)} {user : UserId}
  {names : List String}

/-- An entry that comes up was set. -/
theorem set_of_entry {s s' : δ × Store} {events : List (CallEvent ι)} {key text : String}
    (h : Interleaves (behind database Store.perform) talks s events talks' s')
    (hBefore : s.2.entries.lookup key ≠ some text)
    (hAfter : s'.2.entries.lookup key = some text) :
    ∃ i ttl answer, ⟨i, .cache (.set key text ttl), answer⟩ ∈ events := by
  induction h with
  | stop => exact absurd hAfter hBefore
  | @step talks talks' s mid final i q next a events hAsks hAnswer rest ih =>
    by_cases hHead : mid.2.entries.lookup key = some text
    · -- Of all calls, only a command to the cache can have changed the entry.
      cases q with
      | statement statement =>
        have hSame : mid.2 = s.2 := by
          have hState := congrArg Prod.snd hAnswer
          exact (congrArg Prod.snd hState).symm
        rw [hSame] at hHead
        exact absurd hHead hBefore
      | cache c =>
        have hPerformed : (s.2.perform c).2 = mid.2 := congrArg (fun p => p.2.2) hAnswer
        rw [← hPerformed] at hHead
        rcases lookup_perform hHead with hSame | ⟨ttl, rfl⟩
        · exact absurd hSame hBefore
        · exact ⟨i, ttl, a, List.mem_cons_self⟩
    · obtain ⟨j, ttl, answer, hMem⟩ := ih hHead hAfter
      exact ⟨j, ttl, answer, List.mem_cons_of_mem _ hMem⟩

/-- The cache has no entry of a user after it has taken it out. -/
theorem entry_of_deleted {between : ι → Action (Option LookupAnswer)} {s s' : δ × Store} {j : ι}
    {key : String} {later : List (CallEvent ι)}
    (h : Interleaves (behind database Store.perform) between s
      (⟨j, .cache (.delete key), .ok ()⟩ :: later) talks' s') :
    ∃ between mid, mid.2.entries.lookup key = none ∧
      Interleaves (behind database Store.perform) between mid later talks' s' := by
  obtain ⟨between, mid, hAnswer, hLater⟩ := h.answer
  have hWorked : (s.2.perform (.delete key)).1 = .ok () := Option.some.inj (congrArg Prod.fst hAnswer)
  have hPerformed : (s.2.perform (.delete key)).2 = mid.2 := congrArg (fun p => p.2.2) hAnswer
  have hWorks : Verb.delete ∉ s.2.failing := by
    intro hFailing
    have hContains : s.2.failing.contains Verb.delete = true := List.contains_iff_mem.mpr hFailing
    rw [Store.perform, Command.verb, if_pos hContains] at hWorked
    cases hWorked
  refine ⟨between, mid, ?_, hLater⟩
  rw [← hPerformed, Store.entries_perform_delete, if_neg hWorks]
  exact lookup_erase_self _ _

theorem entry_of_got {between : ι → Action (Option LookupAnswer)} {s s' : δ × Store} {k : ι}
    {key text : String} {later : List (CallEvent ι)}
    (h : Interleaves (behind database Store.perform) between s
      (⟨k, .cache (.get key), .ok (some text)⟩ :: later) talks' s') :
    s.2.entries.lookup key = some text := by
  obtain ⟨_, mid, hAnswer, -⟩ := h.answer
  have hGot : (s.2.perform (.get key)).1 = .ok (some text) :=
    Option.some.inj (congrArg Prod.fst hAnswer)
  rw [Store.perform_get] at hGot
  split at hGot
  · cases hGot
  · exact Except.ok.inj hGot

omit [DecidableEq ι] in
theorem reads_after_or_before {i j : ι} {reply : Reply} {before during after : List (CallEvent ι)}
    (h : Reads user names i (before ++ deletes user j reply :: (during ++ takesOut user j :: after))) :
    Reads user names i (during ++ after) ∨ Reads user names i before := by
  obtain ⟨found, hRead, hRoles⟩ := h
  simp only [List.mem_append, List.mem_cons] at hRead
  rcases hRead with hBefore | hDeletes | hDuring | hTakesOut | hAfter
  · exact .inr ⟨found, hBefore, hRoles⟩
  · cases hDeletes
  · exact .inl ⟨found, List.mem_append_left _ hDuring, hRoles⟩
  · cases hTakesOut
  · exact .inl ⟨found, List.mem_append_right _ hAfter, hRoles⟩

/-- What a lookup finds in the cache, another one has read and put there since the deletion. -/
theorem stores_of_got (hCache : f.hasCache = true) {s s' : δ × Store} {j k : ι} {reply : Reply}
    {before during earlier later : List (CallEvent ι)} {text : String}
    (hRun : Interleaves (behind database Store.perform) (fun i => (calls i).action f) s
      ((before ++ deletes user j reply :: (during ++ takesOut user j :: earlier)) ++
        ⟨k, .cache (.get (cacheKey user)), .ok (some text)⟩ :: later) talks s')
    (hText : Json.texts? text = some names) :
    ∃ i, calls i = .lookup user ∧ Stores user names i earlier ∧
      Reads user names i (before ++ deletes user j reply :: (during ++ takesOut user j :: earlier)) := by
  obtain ⟨atGet, mid, hUpToGet, hFromGet⟩ := hRun.split
  have hEntry : mid.2.entries.lookup (cacheKey user) = some text := entry_of_got hFromGet
  have hShift : before ++ deletes user j reply :: (during ++ takesOut user j :: earlier) =
      (before ++ deletes user j reply :: during) ++ takesOut user j :: earlier := by simp
  rw [hShift] at hUpToGet
  obtain ⟨atDelete, _, -, hFromDelete⟩ := hUpToGet.split
  obtain ⟨_, emptied, hNone, hBetween⟩ := entry_of_deleted hFromDelete
  have hNot : emptied.2.entries.lookup (cacheKey user) ≠ some text := by simp [hNone]
  obtain ⟨i, ttl, answer, hSet⟩ := set_of_entry hBetween hNot hEntry
  rw [← hShift] at hUpToGet
  have hSetInRun : ⟨i, .cache (.set (cacheKey user) text ttl), answer⟩ ∈
      before ++ deletes user j reply :: (during ++ takesOut user j :: earlier) := by
    simp only [List.mem_append, List.mem_cons]
    exact .inr (.inr (.inr (.inr hSet)))
  have hPath := hUpToGet.path i
  cases hCall : calls i with
  | deletion other =>
    rw [hCall] at hPath
    exact absurd hSetInRun (not_stores_of_deletion hPath)
  | lookup other =>
    rw [hCall] at hPath
    obtain ⟨stored, hKey, rfl, hReads⟩ := reads_of_set hCache hPath hSetInRun
    obtain rfl : user = other := cacheKey_injective hKey
    rw [texts?_cacheValue, Option.some.injEq] at hText
    subst hText
    exact ⟨i, hCall, ⟨ttl, answer, hSet⟩, hReads⟩

/-- Roles that a lookup comes to after a deletion of its user were read after the deletion, or
another lookup that had read them before it put them into the cache after it. -/
theorem roles_after_deletion (hCache : f.hasCache = true) {s s' : δ × Store} {j k : ι}
    {reply : Reply} {before during after : List (CallEvent ι)}
    (hRun : Interleaves (behind database Store.perform) (fun i => (calls i).action f) s
      (before ++ deletes user j reply :: (during ++ takesOut user j :: after)) talks s')
    (hLookup : calls k = .lookup user)
    (hStart : ∀ e ∈ before ++ deletes user j reply :: (during ++ [takesOut user j]), e.who ≠ k)
    (hDone : talks k = .done (some (.roles names))) :
    ∃ i, calls i = .lookup user ∧
      (Reads user names i (during ++ after) ∨
        Reads user names i before ∧ Stores user names i after) := by
  have hLate : ∀ e ∈ before ++ deletes user j reply :: (during ++ takesOut user j :: after),
      e.who = k → e ∈ after := by
    intro e he hOwn
    have hNotBefore := fun hBefore => hStart e hBefore hOwn
    simp only [List.mem_append, List.mem_cons, List.not_mem_nil, or_false] at he hNotBefore
    tauto
  have hPath := hRun.path k
  rw [hLookup, hDone] at hPath
  rcases entry_or_reads_of_done hCache hPath with ⟨text, hGet, hText⟩ | ⟨found, hRead, hRoles⟩
  · obtain ⟨earlier, later, rfl⟩ := List.append_of_mem (hLate _ hGet rfl)
    have hShift : before ++ deletes user j reply :: (during ++ takesOut user j ::
          (earlier ++ ⟨k, .cache (.get (cacheKey user)), .ok (some text)⟩ :: later)) =
        (before ++ deletes user j reply :: (during ++ takesOut user j :: earlier)) ++
          ⟨k, .cache (.get (cacheKey user)), .ok (some text)⟩ :: later := by simp
    rw [hShift] at hRun
    obtain ⟨i, hCall, ⟨ttl, answer, hSet⟩, hReads⟩ := stores_of_got hCache hRun hText
    refine ⟨i, hCall, ?_⟩
    rcases reads_after_or_before hReads with ⟨found, hRead, hRoles⟩ | hBefore
    · refine .inl ⟨found, ?_, hRoles⟩
      simp only [List.mem_append] at hRead ⊢
      tauto
    · exact .inr ⟨hBefore, ttl, answer, List.mem_append_left _ hSet⟩
  · exact ⟨k, hLookup, .inl ⟨found, List.mem_append_right _ (hLate _ hRead rfl), hRoles⟩⟩

end Runs

/-! ### A race -/

def raceFacilities : Facilities := ⟨cachedSettings, true, ⟨0, 1, "a", "r"⟩⟩

/-- Two lookups and a deletion of the same user. -/
def raceCalls : Fin 3 → Work
  | 0 | 2 => .lookup 7
  | 1 => .deletion 7

/-- The first lookup misses the cache and reads the role of the user. -/
def raceBefore : List (CallEvent (Fin 3)) :=
  [⟨0, .cache (.get (cacheKey 7)), .ok none⟩,
    ⟨0, .statement (.rolesOf 7), .ok (.ofRecords [.role "editor"])⟩]

/-- After the deletion it stores what it has read, and the second lookup finds it. -/
def raceAfter : List (CallEvent (Fin 3)) :=
  [⟨0, .cache (.set (cacheKey 7) (cacheValue ["editor"]) 300), .ok ()⟩,
    ⟨2, .cache (.get (cacheKey 7)), .ok (some (cacheValue ["editor"]))⟩]

/-- The events of the race. -/
def raceEvents : List (CallEvent (Fin 3)) :=
  raceBefore ++ deletes 7 1 (.ok (.ofAffected 1)) :: ([] ++ takesOut 7 1 :: raceAfter)

theorem race_run : ∃ talks s',
    Interleaves (behind oneUser Store.perform) (fun i => (raceCalls i).action raceFacilities)
        (true, .ofEntries []) raceEvents talks s' ∧
      talks 2 = .done (some (.roles ["editor"])) ∧
      (oneUser (.rolesOf 7) s'.1).1 = some (.ok (.ofRecords [])) := by
  refine ⟨_, _, .step rfl rfl (.step rfl rfl (.step rfl rfl (.step rfl rfl (.step rfl rfl
    (.step rfl rfl .stop))))), ?_, ?_⟩
  · rfl
  · rfl

theorem race_start : ∀ e ∈ raceBefore ++ deletes 7 1 (.ok (.ofAffected 1)) :: ([] ++ [takesOut 7 1]),
    e.who ≠ 2 := by
  simp [raceBefore]

theorem race_accounted_for : ∃ talks s',
    raceFacilities.hasCache = true ∧
      Interleaves (behind oneUser Store.perform) (fun i => (raceCalls i).action raceFacilities)
        (true, .ofEntries []) raceEvents talks s' ∧
      raceCalls 2 = .lookup 7 ∧
      (∀ e ∈ raceBefore ++ deletes 7 1 (.ok (.ofAffected 1)) :: ([] ++ [takesOut 7 1]), e.who ≠ 2) ∧
      talks 2 = .done (some (.roles ["editor"])) ∧
      ∃ i, raceCalls i = .lookup 7 ∧
        (Reads 7 ["editor"] i ([] ++ raceAfter) ∨
          Reads 7 ["editor"] i raceBefore ∧ Stores 7 ["editor"] i raceAfter) := by
  obtain ⟨talks, s', hRun, hDone, -⟩ := race_run
  exact ⟨talks, s', rfl, hRun, rfl, race_start, hDone,
    roles_after_deletion rfl hRun rfl race_start hDone⟩

/-- A lookup that starts after the deletion of its user can come to a role that nobody has read
since, and that is no longer in the database. -/
theorem stale_roles_after_deletion : ∃ talks s',
    Interleaves (behind oneUser Store.perform) (fun i => (raceCalls i).action raceFacilities)
        (true, .ofEntries []) raceEvents talks s' ∧
      talks 2 = .done (some (.roles ["editor"])) ∧
      (oneUser (.rolesOf 7) s'.1).1 = some (.ok (.ofRecords [])) ∧
      ∀ i names, ¬Reads 7 names i ([] ++ raceAfter) := by
  obtain ⟨talks, s', hRun, hDone, hGone⟩ := race_run
  refine ⟨talks, s', hRun, hDone, hGone, ?_⟩
  rintro i names ⟨reply, hRead, -⟩
  simp [raceAfter] at hRead

end Gatehouse.Service
