import Gatehouse.Proofs.Roles.FailOpen
import Gatehouse.Proofs.Roles.Provenance
import Mathlib.Data.Set.Card
import Mathlib.Order.Interval.Set.OrdConnectedComponent

/-! How often the source of roles is asked.  In a run that nothing disturbs, what a lookup gave
stays in the cache until the user is invalidated, whatever is done for others in between.  So the
source is asked once for every user and every longest stretch of the run in which the user is looked
up and not invalidated, and all lookups in the stretch have one answer. -/

namespace Gatehouse.Roles.Bench

open Identity Cache

variable {ttl : UInt64} {start b : Bench} {ops : List Operation} {op : Operation} {user : UserId}
  {names : List String} {i j : ℕ}

/-! ### Undisturbed runs -/

/-- The source has a list of roles for everybody. -/
def GivesAll (source : UserId → LookupAnswer) : Prop := ∀ user, ∃ names, source user = .roles names

/-- No command of the cache fails, and neither does the source. -/
structure Works (b : Bench) : Prop where
  failing : b.store.failing = []
  gives : GivesAll b.source

/-- An operation that leaves everything working and writes nothing of its own into the cache. -/
inductive Operation.IsOrdinary : Operation → Prop
  | lookup (user : UserId) : IsOrdinary (.lookup user)
  | invalidate (user : UserId) : IsOrdinary (.invalidate user)
  | answer {source : UserId → LookupAnswer} (h : GivesAll source) : IsOrdinary (.answer source)

/-- A run on an empty cache in which everything works throughout. -/
structure Undisturbed (start : Bench) (ops : List Operation) : Prop where
  works : start.Works
  empty : start.store.entries = []
  ordinary : ∀ op ∈ ops, op.IsOrdinary

theorem Works.succeeds (h : b.Works) (verb : Verb) : verb ∉ b.store.failing := by
  rw [h.failing]
  exact List.not_mem_nil

theorem Works.held_eq (h : b.Works) (user : UserId) :
    b.held user = (b.entry user).bind Json.texts? :=
  held_of_not_failing (h.succeeds .get)

theorem Works.step (h : b.Works) (hOp : op.IsOrdinary) : (b.step ttl op).2.Works := by
  cases hOp with
  | answer hGives => exact ⟨h.failing, hGives⟩
  | invalidate user =>
    exact ⟨(Store.failing_perform b.store (.delete (cacheKey user))).trans h.failing, h.gives⟩
  | lookup user =>
    cases hHeld : b.held user with
    | some names =>
      rw [step_lookup_of_held hHeld]
      exact h
    | none =>
      obtain ⟨names, hGiven⟩ := h.gives user
      rw [step_lookup_of_not_held hHeld, hGiven]
      exact ⟨(Store.failing_perform b.store _).trans h.failing, h.gives⟩

theorem Works.after (h : b.Works) (hOps : ∀ op ∈ ops, op.IsOrdinary) : (after ttl ops b).Works := by
  induction ops generalizing b with
  | nil => exact h
  | cons op ops ih =>
    obtain ⟨hOp, hOps⟩ := List.forall_mem_cons.mp hOps
    exact ih (h.step hOp) hOps

theorem Undisturbed.take (h : Undisturbed start ops) (n : ℕ) : Undisturbed start (ops.take n) :=
  ⟨h.works, h.empty, fun op hOp => h.ordinary op (List.mem_of_mem_take hOp)⟩

theorem Undisturbed.works_take (h : Undisturbed start ops) (n : ℕ) :
    (after ttl (ops.take n) start).Works :=
  h.works.after (h.take n).ordinary

/-! ### What a lookup gave stays -/

/-- The answer of a lookup is what the cache gives from then on. -/
theorem Works.lookup (h : b.Works) (ttl : UInt64) (user : UserId) :
    ∃ names, (b.step ttl (.lookup user)).1 = some (.roles names) ∧
      (b.step ttl (.lookup user)).2.held user = some names := by
  cases hHeld : b.held user with
  | some names =>
    rw [step_lookup_of_held hHeld]
    exact ⟨names, rfl, hHeld⟩
  | none =>
    obtain ⟨names, hGiven⟩ := h.gives user
    have hFills : b.Fills ttl user names :=
      ⟨calls_step_lookup.mpr hHeld, hGiven, h.succeeds .set⟩
    refine ⟨names, ?_, ?_⟩
    · rw [step_lookup_of_not_held hHeld, hGiven]
    · rw [(h.step (.lookup user)).held_eq, entry_of_fills hFills]
      exact texts?_cacheValue names

theorem held_step (hWorks : b.Works) (hOp : op.IsOrdinary) (hSpares : op ≠ .invalidate user)
    (hHeld : b.held user = some names) : (b.step ttl op).2.held user = some names := by
  have hOwn : ∀ key value, op ≠ .write key value := by
    rintro key value rfl
    cases hOp
  have hUntouched : ¬b.Touches ttl user op := by
    cases hOp with
    | answer hGives => exact id
    | invalidate other =>
      rintro ⟨rfl, -⟩
      exact hSpares rfl
    | lookup other =>
      -- A lookup for the user finds the entry, so it stores nothing.
      rintro ⟨rfl, stored, hFills⟩
      rw [calls_step_lookup.mp hFills.asked] at hHeld
      cases hHeld
  rw [(hWorks.step hOp).held_eq, entry_of_not_touches hOwn hUntouched, ← hWorks.held_eq]
  exact hHeld

/-! ### Places in a run -/

theorem after_take_succ (hOp : ops[i]? = some op) :
    after ttl (ops.take (i + 1)) start = ((after ttl (ops.take i) start).step ttl op).2 := by
  rw [List.take_add_one, hOp]
  exact after_concat op

theorem step_of_getElem? (hOp : ops[i]? = some op) :
    (steps ttl ops start)[i]? = some ((after ttl (ops.take i) start).step ttl op) := by
  obtain ⟨hLt, rfl⟩ := List.getElem?_eq_some_iff.mp hOp
  have hSplit : ops.take i ++ ops[i] :: ops.drop (i + 1) = ops := by
    rw [← List.drop_eq_getElem_cons hLt, List.take_append_drop]
  have hStep : (steps ttl (ops.take i ++ ops[i] :: ops.drop (i + 1)) start)[(ops.take i).length]? =
      some ((after ttl (ops.take i) start).step ttl ops[i]) := steps_getElem? _ _ _
  rwa [hSplit, List.length_take_of_le hLt.le] at hStep

/-- The places of a run at which the entry of a user is left alone. -/
def spared (ops : List Operation) (user : UserId) : Set ℕ :=
  {i | ∃ op, ops[i]? = some op ∧ op ≠ .invalidate user}

theorem mem_spared_of_lookup {other : UserId} (h : ops[i]? = some (.lookup other)) :
    i ∈ spared ops user :=
  ⟨_, h, nofun⟩

/-- From a lookup to a later place with no invalidation of the user in between. -/
theorem held_later (hRun : Undisturbed start ops) (hLt : i < j)
    (hSpared : ∀ k, i < k → k < j → k ∈ spared ops user)
    (hHeld : (after ttl (ops.take (i + 1)) start).held user = some names) :
    (after ttl (ops.take j) start).held user = some names := by
  -- From each place to the next one.
  induction j, hLt using Nat.le_induction with
  | base => exact hHeld
  | succ j hLe ih =>
    obtain ⟨op, hOp, hKept⟩ := hSpared j hLe (Nat.lt_succ_self j)
    have hBefore := ih fun k hAbove hBelow => hSpared k hAbove (Nat.lt_succ_of_lt hBelow)
    rw [after_take_succ hOp]
    exact held_step (hRun.works_take j) (hRun.ordinary op (List.mem_of_getElem? hOp)) hKept hBefore

/-- What the cache gives for a user was looked up, with no invalidation of the user since. -/
theorem exists_lookup_of_held (hRun : Undisturbed start ops)
    (hHeld : (after ttl ops start).held user = some names) :
    ∃ earlier later, ops = earlier ++ .lookup user :: later ∧ .invalidate user ∉ later := by
  obtain ⟨text, hEntry, -⟩ := entry_of_held hHeld
  have hOwn : ∀ key value, .write key value ∉ ops := fun key value hWrite =>
    nomatch hRun.ordinary _ hWrite
  obtain ⟨stored, -, earlier, later, rfl, -, hUntouched⟩ :=
    recalls_of_entry hRun.empty hOwn hEntry
  refine ⟨earlier, later, rfl, fun hRemoved => ?_⟩
  obtain ⟨between, rest, rfl⟩ := List.append_of_mem hRemoved
  have hWorks : (after ttl (earlier ++ .lookup user :: between) start).Works :=
    hRun.works.after fun op hOp => hRun.ordinary op <| by
      simpa using List.mem_append_left (.invalidate user :: rest) hOp
  exact hUntouched between _ rest rfl ⟨rfl, hWorks.succeeds .delete⟩

theorem exists_place_of_held (hRun : Undisturbed start ops) (hLt : j < ops.length)
    (hHeld : (after ttl (ops.take j) start).held user = some names) :
    ∃ i < j, ops[i]? = some (.lookup user) ∧ ∀ k, i < k → k < j → k ∈ spared ops user := by
  obtain ⟨earlier, later, hTake, hKept⟩ := exists_lookup_of_held (hRun.take j) hHeld
  have hLength : earlier.length + (later.length + 1) = j := by
    rw [← List.length_cons, ← List.length_append, ← hTake, List.length_take_of_le hLt.le]
  have hPlace : ∀ k < j, ops[k]? = (earlier ++ .lookup user :: later)[k]? := fun k hBelow => by
    rw [← hTake, List.getElem?_take_of_lt hBelow]
  refine ⟨earlier.length, by omega, ?_, fun k hAbove hBelow => ?_⟩
  · rw [hPlace _ (by omega), List.getElem?_append_right le_rfl, Nat.sub_self]
    rfl
  · obtain ⟨n, rfl⟩ := Nat.exists_eq_add_of_lt hAbove
    have hIndex : earlier.length + n + 1 - earlier.length = n + 1 := by omega
    have hLater : ops[earlier.length + n + 1]? = later[n]? := by
      rw [hPlace _ hBelow, List.getElem?_append_right (by omega), hIndex, List.getElem?_cons_succ]
    have hIn : n < later.length := by omega
    rw [List.getElem?_eq_getElem hIn] at hLater
    exact ⟨later[n], hLater, fun hSame => hKept (hSame ▸ List.getElem_mem hIn)⟩

/-! ### Longest stretches -/

/-- The places are a longest stretch of a run without an invalidation of the user: an interval, and
none of them can be added. -/
def IsStretch (ops : List Operation) (user : UserId) (places : Set ℕ) : Prop :=
  Maximal (fun s : Set ℕ => s.OrdConnected ∧ s ⊆ spared ops user) places

/-- The stretch around a place. -/
def stretchAt (ops : List Operation) (user : UserId) (i : ℕ) : Set ℕ :=
  (spared ops user).ordConnectedComponent i

theorem stretchAt_spared (ops : List Operation) (user : UserId) (i : ℕ) :
    (stretchAt ops user i).OrdConnected ∧ stretchAt ops user i ⊆ spared ops user :=
  ⟨inferInstanceAs (Set.ordConnectedComponent _ _).OrdConnected, Set.ordConnectedComponent_subset⟩

theorem IsStretch.eq_stretchAt {places : Set ℕ} (h : IsStretch ops user places)
    (hMem : i ∈ places) : places = stretchAt ops user i :=
  have : places.OrdConnected := h.prop.1
  h.eq_of_le (stretchAt_spared ops user i) (Set.subset_ordConnectedComponent hMem h.prop.2)

theorem isStretch_stretchAt (h : i ∈ spared ops user) :
    IsStretch ops user (stretchAt ops user i) := by
  refine ⟨stretchAt_spared ops user i, ?_⟩
  rintro places ⟨hConnected, hSpared⟩ hWithin
  have hMem : i ∈ places := hWithin (Set.self_mem_ordConnectedComponent.mpr h)
  exact Set.subset_ordConnectedComponent hMem hSpared

theorem mem_stretchAt_iff_of_le (h : i ≤ j) :
    j ∈ stretchAt ops user i ↔ ∀ k, i ≤ k → k ≤ j → k ∈ spared ops user := by
  rw [stretchAt, Set.mem_ordConnectedComponent, Set.uIcc_of_le h]
  exact ⟨fun hAll k hAbove hBelow => hAll ⟨hAbove, hBelow⟩, fun hAll k hk => hAll k hk.1 hk.2⟩

theorem mem_stretchAt_comm : j ∈ stretchAt ops user i ↔ i ∈ stretchAt ops user j :=
  Set.mem_ordConnectedComponent_comm

/-- The pairs of a user and a longest stretch without an invalidation of the user in which the user
is looked up. -/
def lookupStretches (ops : List Operation) : Set (UserId × Set ℕ) :=
  {p | IsStretch ops p.1 p.2 ∧ ∃ i ∈ p.2, ops[i]? = some (.lookup p.1)}

/-- After a lookup, the cache has an answer for every other one in the same stretch. -/
theorem held_in_stretch (ttl : UInt64) (hRun : Undisturbed start ops)
    (hLookup : ops[i]? = some (.lookup user)) (hLt : i < j) (hMem : j ∈ stretchAt ops user i) :
    ∃ names, ((after ttl (ops.take i) start).step ttl (.lookup user)).1 = some (.roles names) ∧
      (after ttl (ops.take j) start).held user = some names := by
  obtain ⟨names, hAnswer, hHeld⟩ := (hRun.works_take i).lookup ttl user
  rw [← after_take_succ hLookup] at hHeld
  have hSpared := (mem_stretchAt_iff_of_le hLt.le).mp hMem
  exact ⟨names, hAnswer, held_later hRun hLt
    (fun k hAbove hBelow => hSpared k hAbove.le hBelow.le) hHeld⟩

theorem answer_in_stretch (hRun : Undisturbed start ops) (hLookup : ops[i]? = some (.lookup user))
    (hOther : ops[j]? = some (.lookup user)) (hLe : i ≤ j) (hMem : j ∈ stretchAt ops user i)
    (hAnswer : ((after ttl (ops.take i) start).step ttl (.lookup user)).1 = some (.roles names)) :
    ((after ttl (ops.take j) start).step ttl (.lookup user)).1 = some (.roles names) := by
  rcases hLe.eq_or_lt with rfl | hLt
  · exact hAnswer
  · obtain ⟨given, hGiven, hHeld⟩ := held_in_stretch ttl hRun hLookup hLt hMem
    rw [step_lookup_of_held hHeld, ← hGiven, hAnswer]

/-! ### Places at which the source is asked -/

/-- The lookups that ask the source, by their user and their place. -/
def asking (ttl : UInt64) (start : Bench) (ops : List Operation) : Set (UserId × ℕ) :=
  {p | ops[p.2]? = some (.lookup p.1) ∧ (after ttl (ops.take p.2) start).held p.1 = none}

theorem mem_asking_concat {other : UserId} :
    (other, i) ∈ asking ttl start (ops ++ [op]) ↔ (other, i) ∈ asking ttl start ops ∨
      i = ops.length ∧ op = .lookup other ∧ (after ttl ops start).held other = none := by
  simp only [asking, Set.mem_ofPred_eq]
  rcases Nat.lt_trichotomy i ops.length with hLt | rfl | hGt
  · rw [List.getElem?_append_left hLt, List.take_append_of_le_length hLt.le]
    simp [hLt.ne]
  · simp
  · rw [List.getElem?_eq_none (by simp; omega), List.getElem?_eq_none (by omega)]
    simp [hGt.ne']

theorem asking_concat_of_miss (hMiss : (after ttl ops start).held user = none) :
    asking ttl start (ops ++ [.lookup user]) =
      insert (user, ops.length) (asking ttl start ops) := by
  ext ⟨other, i⟩
  rw [mem_asking_concat, Set.mem_insert_iff, or_comm, Prod.mk.injEq]
  refine or_congr_left ⟨?_, ?_⟩
  · rintro ⟨rfl, hSame, -⟩
    cases hSame
    exact ⟨rfl, rfl⟩
  · rintro ⟨rfl, rfl⟩
    exact ⟨rfl, rfl, hMiss⟩

theorem asking_concat_of_hit
    (hHit : ∀ user, op = .lookup user → (after ttl ops start).held user ≠ none) :
    asking ttl start (ops ++ [op]) = asking ttl start ops := by
  ext ⟨other, i⟩
  rw [mem_asking_concat, or_iff_left]
  rintro ⟨-, hOp, hMiss⟩
  exact hHit other hOp hMiss

theorem calls_step_of_hit (hHit : ∀ user, op = .lookup user → b.held user ≠ none) :
    (b.step ttl op).2.calls = b.calls := by
  cases op with
  | lookup user =>
    obtain ⟨names, hHeld⟩ := Option.ne_none_iff_exists'.mp (hHit user rfl)
    rw [step_lookup_of_held hHeld]
  | invalidate user => rfl
  | answer source => rfl
  | write key value => rfl
  | fail verbs => rfl

/-- Every call of the source was made by a lookup that found nothing in the cache. -/
theorem calls_after (ops : List Operation) : ((after ttl ops start).calls : ℕ∞) =
    start.calls + (asking ttl start ops).encard := by
  induction ops using List.reverseRecOn with
  | nil => simp [asking, after]
  | append_singleton ops op ih =>
    rw [after_concat]
    by_cases hHit : ∀ user, op = .lookup user → (after ttl ops start).held user ≠ none
    · rw [asking_concat_of_hit hHit, calls_step_of_hit hHit, ih]
    · push Not at hHit
      obtain ⟨user, rfl, hMiss⟩ := hHit
      have hNew : (user, ops.length) ∉ asking ttl start ops := by simp [asking]
      rw [asking_concat_of_miss hMiss, Set.encard_insert_of_notMem hNew,
        calls_step_lookup.mpr hMiss, Nat.cast_succ, ih, add_assoc]

/-! ### One question for each stretch -/

/-- In every stretch with a lookup, the first lookup asks the source. -/
theorem exists_asking (ttl : UInt64) (hRun : Undisturbed start ops) {places : Set ℕ}
    (hPair : (user, places) ∈ lookupStretches ops) :
    ∃ i ∈ places, (user, i) ∈ asking ttl start ops ∧
      ∀ j ∈ places, ops[j]? = some (.lookup user) → i ≤ j := by
  obtain ⟨hStretch, hLookup⟩ := hPair
  obtain ⟨i, ⟨hMem, hFirst⟩, hLeast⟩ :=
    wellFounded_lt.has_min {i | i ∈ places ∧ ops[i]? = some (.lookup user)} hLookup
  refine ⟨i, hMem, ⟨hFirst, ?_⟩, fun j hj hOther => not_lt.mp (hLeast j ⟨hj, hOther⟩)⟩
  -- An answer in the cache would be that of an earlier lookup in the stretch.
  by_contra hHit
  obtain ⟨names, hHeld⟩ := Option.ne_none_iff_exists'.mp hHit
  have hLength := (List.getElem?_eq_some_iff.mp hFirst).1
  obtain ⟨j, hLt, hEarlier, hBetween⟩ := exists_place_of_held hRun hLength hHeld
  have hReach : i ∈ stretchAt ops user j := by
    refine (mem_stretchAt_iff_of_le hLt.le).mpr fun k hAbove hBelow => ?_
    rcases hAbove.eq_or_lt with rfl | hAbove
    · exact mem_spared_of_lookup hEarlier
    · rcases hBelow.eq_or_lt with rfl | hBelow
      · exact mem_spared_of_lookup hFirst
      · exact hBetween k hAbove hBelow
  have hInside : j ∈ places := by
    rw [show places = stretchAt ops user i from hStretch.eq_stretchAt hMem]
    exact mem_stretchAt_comm.mp hReach
  exact hLeast j ⟨hInside, hEarlier⟩ hLt

/-- No stretch has two lookups that ask the source. -/
theorem asking_unique (hRun : Undisturbed start ops) (hFirst : (user, i) ∈ asking ttl start ops)
    (hSecond : (user, j) ∈ asking ttl start ops) (hMem : j ∈ stretchAt ops user i) : ¬i < j := by
  intro hLt
  obtain ⟨names, -, hHeld⟩ := held_in_stretch ttl hRun hFirst.1 hLt hMem
  rw [hSecond.2] at hHeld
  cases hHeld

theorem encard_asking (hRun : Undisturbed start ops) :
    (asking ttl start ops).encard = (lookupStretches ops).encard := by
  have hImage : (fun p : UserId × ℕ => (p.1, stretchAt ops p.1 p.2)) '' asking ttl start ops =
      lookupStretches ops := by
    ext ⟨user, places⟩
    constructor
    · rintro ⟨⟨other, i⟩, hAsks, hSame⟩
      cases hSame
      have hSpared : i ∈ spared ops other := mem_spared_of_lookup hAsks.1
      exact ⟨isStretch_stretchAt hSpared, i, Set.self_mem_ordConnectedComponent.mpr hSpared,
        hAsks.1⟩
    · intro hPair
      obtain ⟨i, hMem, hAsks, -⟩ := exists_asking ttl hRun hPair
      exact ⟨(user, i), hAsks, Prod.ext rfl (hPair.1.eq_stretchAt hMem).symm⟩
  have hInjective : Set.InjOn (fun p : UserId × ℕ => (p.1, stretchAt ops p.1 p.2))
      (asking ttl start ops) := by
    rintro ⟨user, i⟩ hFirst ⟨other, j⟩ hSecond hSame
    obtain ⟨rfl, hStretch⟩ := Prod.mk.inj hSame
    have hMem : j ∈ stretchAt ops user i := by
      rw [hStretch]
      exact Set.self_mem_ordConnectedComponent.mpr (mem_spared_of_lookup hSecond.1)
    have hLe := not_lt.mp (asking_unique hRun hFirst hSecond hMem)
    have hGe := not_lt.mp (asking_unique hRun hSecond hFirst (mem_stretchAt_comm.mp hMem))
    rw [le_antisymm hGe hLe]
  rw [← hImage, hInjective.encard_image]

/-- The source is asked exactly once for every user and every longest stretch without an
invalidation of the user in which the user is looked up, and all lookups of the user in a stretch
give the same list. -/
theorem source_asked_once_per_stretch (ttl : UInt64) (hRun : Undisturbed start ops) :
    ((after ttl ops start).calls : ℕ∞) = start.calls + (lookupStretches ops).encard ∧
    ∀ user places, IsStretch ops user places → ∃ names, ∀ i ∈ places,
      ops[i]? = some (.lookup user) →
      ∃ b, (steps ttl ops start)[i]? = some (some (.roles names), b) := by
  refine ⟨by rw [calls_after, encard_asking hRun], fun user places hStretch => ?_⟩
  by_cases hLookup : ∃ i ∈ places, ops[i]? = some (.lookup user)
  · obtain ⟨i, hMem, hAsks, hLeast⟩ := exists_asking ttl hRun ⟨hStretch, hLookup⟩
    obtain ⟨names, hAnswer, -⟩ := (hRun.works_take i).lookup ttl user
    refine ⟨names, fun j hj hOther => ?_⟩
    have hReach : j ∈ stretchAt ops user i := hStretch.eq_stretchAt hMem ▸ hj
    have hSame := answer_in_stretch hRun hAsks.1 hOther (hLeast j hj hOther) hReach hAnswer
    exact ⟨_, (step_of_getElem? hOther).trans (congrArg some (Prod.ext hSame rfl))⟩
  · exact ⟨[], fun i hMem hOp => absurd ⟨i, hMem, hOp⟩ hLookup⟩

/-- Lookups for two users; the roles of everybody change after the first two. -/
def twoUsers : List Operation :=
  [.lookup 7, .lookup 8, .answer fun _ => .roles [], .lookup 7, .invalidate 8, .lookup 7,
    .lookup 8, .invalidate 7, .lookup 7]

/-- An empty cache, and a source to which everybody is an administrator. -/
def everybodyAdmin : Bench := ⟨.ofEntries [], fun _ => .roles ["admin"], 0⟩

theorem undisturbed_twoUsers : Undisturbed everybodyAdmin twoUsers := by
  refine ⟨⟨rfl, fun _ => ⟨_, rfl⟩⟩, rfl, ?_⟩
  simp only [twoUsers, List.forall_mem_cons, List.not_mem_nil, false_imp_iff, implies_true,
    and_true]
  exact ⟨.lookup 7, .lookup 8, .answer fun _ => ⟨_, rfl⟩, .lookup 7, .invalidate 8, .lookup 7,
    .lookup 8, .invalidate 7, .lookup 7⟩

/-- Six lookups fall into four stretches, and the three of one stretch agree. -/
theorem two_users_asked_for_twice :
    Undisturbed everybodyAdmin twoUsers ∧ (lookupStretches twoUsers).encard = 4 ∧
      ∃ names, ∀ i ∈ [0, 3, 5],
        ∃ b, (steps 300 twoUsers everybodyAdmin)[i]? = some (some (.roles names), b) := by
  obtain ⟨hCalls, hSame⟩ := source_asked_once_per_stretch 300 undisturbed_twoUsers
  have hFour : (after 300 twoUsers everybodyAdmin).calls = 4 := by decide +kernel
  rw [hFour, show everybodyAdmin.calls = 0 from rfl, Nat.cast_zero, zero_add] at hCalls
  obtain ⟨names, hNames⟩ := hSame 7 (stretchAt twoUsers 7 0)
    (isStretch_stretchAt (mem_spared_of_lookup rfl))
  have hPlaces : ∀ i ∈ [0, 3, 5], i ≤ 5 ∧ twoUsers[i]? = some (.lookup 7) := by
    simp [twoUsers]
  refine ⟨undisturbed_twoUsers, hCalls.symm, names, fun i hi => ?_⟩
  obtain ⟨hLe, hLookup⟩ := hPlaces i hi
  refine hNames i ((mem_stretchAt_iff_of_le (Nat.zero_le i)).mpr fun k _ hk => ?_) hLookup
  have hBelow : k ≤ 5 := hk.trans hLe
  interval_cases k <;> exact ⟨_, rfl, nofun⟩

end Gatehouse.Roles.Bench
