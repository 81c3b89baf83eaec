import Gatehouse.Proofs.Json.TextList
import Gatehouse.Proofs.Roles.Cached

/-! One lookup in a cache of any content, of which any part may fail.  The source is asked exactly
where the cache has no list to give, its answer is the answer, and what is stored is its list, under
the key of the user. -/

namespace Gatehouse.Cache.Store

variable {s : Store} {key other value : String} {ttl : UInt64}

theorem perform_set_of_failing (h : Verb.set ∈ s.failing) :
    (s.perform (.set key value ttl)).2 = s := by
  have hContains : s.failing.contains Verb.set = true := List.contains_iff_mem.mpr h
  unfold perform
  rw [Command.verb, if_pos hContains]

theorem lookup_perform_set_of_ne (h : other ≠ key) :
    (s.perform (.set key value ttl)).2.entries.lookup other = s.entries.lookup other ∧
      (s.perform (.set key value ttl)).2.ttls.lookup other = s.ttls.lookup other := by
  unfold perform
  split
  · exact ⟨rfl, rfl⟩
  · exact ⟨lookup_put_of_ne h _ _, lookup_put_of_ne h _ _⟩

end Gatehouse.Cache.Store

namespace Gatehouse.Roles.Bench

open Identity Cache Text

variable {ttl : UInt64} {b : Bench} {user : UserId} {names : List String}

/-- The entry of a user is the text of a list of roles. -/
def Holds (b : Bench) (user : UserId) (names : List String) : Prop :=
  ∃ text, b.entry user = some text ∧ Json.TextList names (Utf8.encode text)

/-- The cache has no list to give: it does not answer, it has no entry for the user, or the entry is
no list of texts. -/
def Misses (b : Bench) (user : UserId) : Prop :=
  Verb.get ∈ b.store.failing ∨ b.entry user = none ∨
    ∃ text, b.entry user = some text ∧ ∀ names, ¬Json.TextList names (Utf8.encode text)

theorem held_of_failing (h : Verb.get ∈ b.store.failing) : b.held user = none := by
  rw [held, Store.perform_get, if_pos h]
  rfl

theorem held_of_not_failing (h : Verb.get ∉ b.store.failing) :
    b.held user = (b.entry user).bind Json.texts? := by
  rw [held, Store.perform_get, if_neg h, entry]
  cases b.store.entries.lookup (cacheKey user) <;> rfl

theorem holds_of_held (h : b.held user = some names) : b.Holds user names := by
  obtain ⟨text, hEntry, hText⟩ := entry_of_held h
  exact ⟨text, hEntry, Json.texts?_eq_some_iff.mp hText⟩

theorem misses_iff : b.Misses user ↔ b.held user = none := by
  by_cases hFailing : Verb.get ∈ b.store.failing
  · exact ⟨fun _ => held_of_failing hFailing, fun _ => .inl hFailing⟩
  rw [held_of_not_failing hFailing]
  constructor
  · rintro (hFails | hNone | ⟨text, hEntry, hForeign⟩)
    · exact absurd hFails hFailing
    · rw [hNone]
      rfl
    · rw [hEntry]
      cases hText : Json.texts? text with
      | none => exact hText
      | some names => exact absurd (Json.texts?_eq_some_iff.mp hText) (hForeign names)
  · intro hHeld
    cases hEntry : b.entry user with
    | none => exact .inr (.inl hEntry)
    | some text =>
      rw [hEntry] at hHeld
      have hText : Json.texts? text = none := hHeld
      refine .inr (.inr ⟨text, hEntry, fun names hList => ?_⟩)
      rw [Json.texts?_eq_some_iff.mpr hList] at hText
      cases hText

/-- What a lookup for a user answers and leaves behind. -/
structure FailsOpen (b : Bench) (user : UserId) (answer : LookupAnswer) (after : Bench) : Prop where
  asks_iff : after.calls = b.calls + 1 ↔ b.Misses user
  asks_once : after.calls = b.calls ∨ after.calls = b.calls + 1
  fails_iff : ∀ e, answer = .failed e ↔ after.calls = b.calls + 1 ∧ b.source user = .failed e
  /-- Without a list from the source the cache stays exactly as it is. -/
  keeps : after.calls = b.calls + 1 → (∀ names, b.source user ≠ .roles names) →
    answer = b.source user ∧ after.store = b.store
  /-- A list from the source is the answer, and repairs the entry if the cache takes it. -/
  gives : ∀ names, after.calls = b.calls + 1 → b.source user = .roles names →
    answer = .roles names ∧
      if Verb.set ∈ b.store.failing then after.store = b.store else after.Holds user names
  hits : after.calls = b.calls → after = b ∧ ∃ names, b.Holds user names ∧ answer = .roles names
  /-- Nobody else's entry and its time to live are touched. -/
  others : ∀ key, key ≠ cacheKey user →
    after.store.entries.lookup key = b.store.entries.lookup key ∧
      after.store.ttls.lookup key = b.store.ttls.lookup key

theorem holds_of_stored (hWorks : Verb.set ∉ b.store.failing) {calls : Nat} :
    Holds
      { b with
        calls := calls
        store := (b.store.perform (.set (cacheKey user) (cacheValue names) ttl)).2 }
      user names := by
  refine ⟨cacheValue names, ?_, Json.texts?_eq_some_iff.mp (texts?_cacheValue names)⟩
  show ((b.store.perform (.set (cacheKey user) (cacheValue names) ttl)).2.entries).lookup _ = _
  rw [Store.entries_perform_set, if_neg hWorks]
  exact lookup_put_self _ _ _

theorem failsOpen_of_hit (h : b.held user = some names) : b.FailsOpen user (.roles names) b := by
  have hHit : ¬b.Misses user := by
    intro hMisses
    rw [misses_iff, h] at hMisses
    cases hMisses
  have hCalls : b.calls ≠ b.calls + 1 := Nat.ne_of_lt (Nat.lt_succ_self _)
  exact {
    asks_iff := ⟨fun hAsked => absurd hAsked hCalls, fun hMisses => absurd hMisses hHit⟩
    asks_once := .inl rfl
    fails_iff := fun e => ⟨nofun, fun hAsked => absurd hAsked.1 hCalls⟩
    keeps := fun hAsked => absurd hAsked hCalls
    gives := fun _ hAsked => absurd hAsked hCalls
    hits := fun _ => ⟨rfl, names, holds_of_held h, rfl⟩
    others := fun _ _ => ⟨rfl, rfl⟩ }

theorem failsOpen_of_miss (h : b.held user = none) :
    b.FailsOpen user (b.source user) (b.step ttl (.lookup user)).2 := by
  have hCalls : b.calls + 1 ≠ b.calls := Nat.succ_ne_self _
  rw [step_lookup_of_not_held h]
  exact {
    asks_iff := ⟨fun _ => misses_iff.mpr h, fun _ => rfl⟩
    asks_once := .inr rfl
    fails_iff := fun e => ⟨fun hFailed => ⟨rfl, hFailed⟩, fun hAsked => hAsked.2⟩
    keeps := by
      intro _ hNone
      refine ⟨rfl, ?_⟩
      cases hGiven : b.source user with
      | roles names => exact absurd hGiven (hNone names)
      | failed e => rfl
      | silent => rfl
    gives := by
      intro names _ hGiven
      refine ⟨hGiven, ?_⟩
      simp only [hGiven]
      split
      · rename_i hFailing
        exact Store.perform_set_of_failing hFailing
      · rename_i hWorks
        exact holds_of_stored hWorks
    hits := fun hSame => absurd hSame hCalls
    others := by
      intro key hKey
      cases hGiven : b.source user with
      | roles names => exact Store.lookup_perform_set_of_ne hKey
      | failed e => exact ⟨rfl, rfl⟩
      | silent => exact ⟨rfl, rfl⟩ }

/-- No failure of the cache fails a lookup, and no lookup touches what is not its own. -/
theorem lookup_fails_open (ttl : UInt64) (b : Bench) (user : UserId) :
    ∃ answer, (b.step ttl (.lookup user)).1 = some answer ∧
      b.FailsOpen user answer (b.step ttl (.lookup user)).2 := by
  cases h : b.held user with
  | some names =>
    rw [step_lookup_of_held h]
    exact ⟨_, rfl, failsOpen_of_hit h⟩
  | none =>
    refine ⟨b.source user, ?_, failsOpen_of_miss h⟩
    rw [step_lookup_of_not_held h]

end Gatehouse.Roles.Bench
