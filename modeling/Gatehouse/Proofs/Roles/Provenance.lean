import Gatehouse.Proofs.Roles.Cached
import Mathlib.Data.List.Induction

/-! Where cached roles come from.  In every run on a cache that starts empty and that nobody else
writes to, what is stored for a user was given by the source at the last lookup that stored anything
for the user, and no invalidation has removed it since. -/

namespace Gatehouse.Roles

open Identity Cache

namespace Bench

/-- The bench after operations. -/
def after (ttl : UInt64) (ops : List Operation) (b : Bench) : Bench :=
  ops.foldl (fun b op => (b.step ttl op).2) b

variable {ttl : UInt64} {start : Bench} {before : List Operation} {user : UserId}
  {names : List String}

theorem after_append (ops more : List Operation) :
    after ttl (ops ++ more) start = after ttl more (after ttl ops start) :=
  List.foldl_append

theorem after_concat (op : Operation) :
    after ttl (before ++ [op]) start = ((after ttl before start).step ttl op).2 :=
  after_append before [op]

theorem steps_getElem? (before : List Operation) (op : Operation) (later : List Operation) :
    (steps ttl (before ++ op :: later) start)[before.length]? =
      some ((after ttl before start).step ttl op) := by
  induction before generalizing start with
  | nil => rfl
  | cons first before ih => exact ih

/-- The list was stored for the user by a lookup in the run, and nothing has touched it since. -/
def Recalls (ttl : UInt64) (start : Bench) (before : List Operation) (user : UserId)
    (names : List String) : Prop :=
  ∃ earlier later, before = earlier ++ .lookup user :: later ∧
    (after ttl earlier start).Fills ttl user names ∧
    ∀ between op rest, later = between ++ op :: rest →
      ¬(after ttl (earlier ++ .lookup user :: between) start).Touches ttl user op

theorem recalls_of_fills (h : (after ttl before start).Fills ttl user names) :
    Recalls ttl start (before ++ [.lookup user]) user names :=
  ⟨before, [], rfl, h, fun between _ _ hNil => absurd hNil.symm (by simp)⟩

theorem Recalls.concat {op : Operation} (h : Recalls ttl start before user names)
    (hOp : ¬(after ttl before start).Touches ttl user op) :
    Recalls ttl start (before ++ [op]) user names := by
  obtain ⟨earlier, later, rfl, hFills, hUntouched⟩ := h
  refine ⟨earlier, later ++ [op], by simp, hFills, fun between last rest hSplit => ?_⟩
  -- Either the new operation is looked at, or one that was there before.
  rcases List.eq_nil_or_concat rest with rfl | ⟨rest, final, rfl⟩
  · obtain ⟨rfl, hLast⟩ := List.append_inj' hSplit rfl
    cases hLast
    exact hOp
  · have hLater : later ++ [op] = (between ++ last :: rest) ++ [final] := by simpa using hSplit
    obtain ⟨rfl, -⟩ := List.append_inj' hLater rfl
    exact hUntouched between last rest rfl

/-- Everything stored in a run is accounted for. -/
theorem recalls_of_entry (hEmpty : start.store.entries = [])
    (hOwn : ∀ key value, .write key value ∉ before) {text : String}
    (hEntry : (after ttl before start).entry user = some text) :
    ∃ names, text = cacheValue names ∧ Recalls ttl start before user names := by
  -- Along the run from its end: the last operation touches the entry, or the entry is as old as
  -- the run before it.
  induction before using List.reverseRecOn generalizing user text with
  | nil =>
    simp [after, entry, hEmpty] at hEntry
  | append_singleton before op ih =>
    rw [after_concat] at hEntry
    have hOwnBefore : ∀ key value, .write key value ∉ before :=
      fun key value h => hOwn key value (List.mem_append_left _ h)
    have hOp : ∀ key value, op ≠ .write key value := by
      rintro key value rfl
      exact hOwn key value (List.mem_append_right _ List.mem_cons_self)
    by_cases hTouches : (after ttl before start).Touches ttl user op
    · cases op with
      | lookup other =>
        obtain ⟨rfl, names, hFills⟩ := hTouches
        rw [entry_of_fills hFills] at hEntry
        cases hEntry
        exact ⟨names, rfl, recalls_of_fills hFills⟩
      | invalidate other =>
        obtain ⟨rfl, hWorks⟩ := hTouches
        rw [entry_of_invalidated hWorks] at hEntry
        cases hEntry
      | write key value => cases hTouches
      | answer source => cases hTouches
      | fail verbs => cases hTouches
    · rw [entry_of_not_touches hOp hTouches] at hEntry
      obtain ⟨names, hText, hRecalls⟩ := ih hOwnBefore hEntry
      exact ⟨names, hText, hRecalls.concat hTouches⟩

/-- A lookup answers what the source says now, or the list that the source gave at the last lookup
that stored one for the same user, if no invalidation has removed it. -/
theorem lookup_provenance (later : List Operation) (hEmpty : start.store.entries = [])
    (hOwn : ∀ key value, .write key value ∉ before) :
    ∃ answer b, (steps ttl (before ++ .lookup user :: later) start)[before.length]? =
        some (some answer, b) ∧
      (answer = (after ttl before start).source user ∨
        ∃ names, answer = .roles names ∧ Recalls ttl start before user names) := by
  rw [steps_getElem?]
  cases hHeld : (after ttl before start).held user with
  | none =>
    rw [step_lookup_of_not_held hHeld]
    exact ⟨_, _, rfl, .inl rfl⟩
  | some names =>
    rw [step_lookup_of_held hHeld]
    obtain ⟨text, hEntry, hText⟩ := entry_of_held hHeld
    obtain ⟨stored, rfl, hRecalls⟩ := recalls_of_entry hEmpty hOwn hEntry
    rw [texts?_cacheValue, Option.some.injEq] at hText
    subst hText
    exact ⟨_, _, rfl, .inr ⟨stored, rfl, hRecalls⟩⟩

/-- A role with a quote and a character beyond ASCII is stored, and then the source fails. -/
def failingAfterwards : List Operation :=
  [.answer fun _ => .roles ["\"ä"], .lookup 7, .answer fun _ => .failed .database]

theorem role_survives_failure :
    ∃ answer b, (steps 300 (failingAfterwards ++ [.lookup 7])
        ⟨.ofEntries [], fun _ => .silent, 0⟩)[3]? = some (some answer, b) ∧
      (answer = .failed .database ∨ ∃ names, answer = .roles names ∧
        Recalls 300 ⟨.ofEntries [], fun _ => .silent, 0⟩ failingAfterwards 7 names) :=
  lookup_provenance [] rfl (by simp [failingAfterwards])

end Bench

end Gatehouse.Roles
