import Gatehouse.Proofs.Json.Texts
import Gatehouse.Proofs.Text.Decimal
import Gatehouse.Roles.Bench

/-! Single operations on cached lookups.  Users have keys of their own, and what a list of roles is
stored as reads back as the list.  A lookup answers with what the cache holds for the user, or else
asks the source and stores what it gives.  No other operation but an invalidation changes what is
stored for a user. -/

namespace Gatehouse.Cache.Store

variable (s : Store) (key value : String) (ttl : UInt64)

theorem perform_get :
    s.perform (.get key) =
      (if .get ∈ s.failing then .error (.command "refused") else .ok (s.entries.lookup key),
        s) := by
  by_cases h : Verb.get ∈ s.failing <;> simp [perform, Command.verb, execute, h]

theorem entries_perform_set :
    (s.perform (.set key value ttl)).2.entries =
      if .set ∈ s.failing then s.entries else put key value s.entries := by
  by_cases h : Verb.set ∈ s.failing <;> simp [perform, Command.verb, execute, h]

theorem entries_perform_delete :
    (s.perform (.delete key)).2.entries =
      if .delete ∈ s.failing then s.entries else erase key s.entries := by
  by_cases h : Verb.delete ∈ s.failing <;> simp [perform, Command.verb, execute, h]

theorem failing_perform (c : Command) : (s.perform c).2.failing = s.failing := by
  unfold perform
  split
  · rfl
  · cases c <;> rfl

end Gatehouse.Cache.Store

namespace Gatehouse.Roles

open Identity Cache Text

theorem cacheKey_injective : Function.Injective cacheKey := by
  intro user other h
  have hDigits : toString user.toNat = toString other.toNat := by
    simpa [cacheKey] using h
  exact UInt32.toNat_inj.mp (Decimal.toString_injective hDigits)

theorem texts?_cacheValue (names : List String) : Json.texts? (cacheValue names) = some names :=
  Json.texts?_compact names

namespace Bench

variable {ttl : UInt64} {b : Bench} {user : UserId} {names : List String}

/-- The roles that the cache gives for a user. -/
def held (b : Bench) (user : UserId) : Option (List String) :=
  cachedRoles (b.store.perform (.get (cacheKey user))).1

/-- What was stored for a user, whether or not it can be read now. -/
def entry (b : Bench) (user : UserId) : Option String := b.store.entries.lookup (cacheKey user)

/-- What the cache gives was stored, and is read. -/
theorem entry_of_held (h : b.held user = some names) :
    ∃ text, b.entry user = some text ∧ Json.texts? text = some names := by
  rw [held, Store.perform_get] at h
  split at h
  · cases h
  · cases hEntry : b.entry user with
    | none =>
      rw [entry] at hEntry
      rw [hEntry] at h
      cases h
    | some text =>
      rw [entry] at hEntry
      rw [hEntry] at h
      exact ⟨text, rfl, h⟩

theorem step_lookup_of_held (h : b.held user = some names) :
    b.step ttl (.lookup user) = (some (.roles names), b) := by
  simp only [held] at h
  simp only [step, lookupCached, send, ask, Dialogue.bind_eq, Dialogue.question, Dialogue.bind,
    Dialogue.run, respond, h]
  simp only [Store.perform_get]
  rfl

/-- A miss asks the source, and a list that it gives goes to the cache. -/
theorem step_lookup_of_not_held (h : b.held user = none) :
    b.step ttl (.lookup user) =
      (some (b.source user),
        { b with
          calls := b.calls + 1
          store := match b.source user with
            | .roles names => (b.store.perform (.set (cacheKey user) (cacheValue names) ttl)).2
            | _ => b.store }) := by
  simp only [held] at h
  simp only [step, lookupCached, send, ask, Dialogue.bind_eq, Dialogue.question, Dialogue.bind,
    Dialogue.run, respond, h]
  simp only [Store.perform_get]
  cases b.source user <;> rfl

theorem calls_step_lookup :
    (b.step ttl (.lookup user)).2.calls = b.calls + 1 ↔ b.held user = none := by
  cases h : b.held user with
  | none => simp [step_lookup_of_not_held h]
  | some names => simp [step_lookup_of_held h]

/-- A lookup for a user stores a list of roles: the source is asked and gives it, and the cache
takes it. -/
structure Fills (ttl : UInt64) (b : Bench) (user : UserId) (names : List String) : Prop where
  asked : (b.step ttl (.lookup user)).2.calls = b.calls + 1
  given : b.source user = .roles names
  stored : Verb.set ∉ b.store.failing

/-- An operation replaces or removes what is stored for a user. -/
def Touches (ttl : UInt64) (b : Bench) (user : UserId) : Operation → Prop
  | .lookup other => other = user ∧ ∃ names, b.Fills ttl user names
  | .invalidate other => other = user ∧ Verb.delete ∉ b.store.failing
  | .write .. | .answer _ | .fail _ => False

theorem entry_of_fills (h : b.Fills ttl user names) :
    (b.step ttl (.lookup user)).2.entry user = some (cacheValue names) := by
  rw [step_lookup_of_not_held (calls_step_lookup.mp h.asked), entry]
  simp only [h.given, Store.entries_perform_set, if_neg h.stored]
  exact lookup_put_self _ _ _

theorem entry_of_invalidated (h : Verb.delete ∉ b.store.failing) :
    (b.step ttl (.invalidate user)).2.entry user = none := by
  change ((b.store.perform (.delete (cacheKey user))).2.entries).lookup (cacheKey user) = none
  rw [Store.entries_perform_delete, if_neg h]
  exact lookup_erase_self _ _

/-- What is stored for a user stays unless an operation touches it. -/
theorem entry_of_not_touches {op : Operation} (hOwn : ∀ key value, op ≠ .write key value)
    (h : ¬b.Touches ttl user op) : (b.step ttl op).2.entry user = b.entry user := by
  cases op with
  | answer source => rfl
  | fail verbs => rfl
  | write key value => exact absurd rfl (hOwn key value)
  | invalidate other =>
    change ((b.store.perform (.delete (cacheKey other))).2.entries).lookup (cacheKey user) = _
    rw [Store.entries_perform_delete]
    split
    · rfl
    · rename_i hWorks
      have hOther : user ≠ other := fun hSame => h ⟨hSame.symm, hWorks⟩
      exact lookup_erase_of_ne (cacheKey_injective.ne hOther) _
  | lookup other =>
    cases hHeld : b.held other with
    | some names => rw [step_lookup_of_held hHeld]
    | none =>
      rw [step_lookup_of_not_held hHeld, entry]
      cases hGiven : b.source other with
      | failed e => rfl
      | silent => rfl
      | roles names =>
        simp only [Store.entries_perform_set]
        split
        · rfl
        · rename_i hWorks
          have hOther : user ≠ other := by
            rintro rfl
            exact h ⟨rfl, names, calls_step_lookup.mpr hHeld, hGiven, hWorks⟩
          exact lookup_put_of_ne (cacheKey_injective.ne hOther) _ _

end Bench

end Gatehouse.Roles
