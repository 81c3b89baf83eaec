/-! Computations that may fail.  A sequence of checks succeeds if each of them does, and fails with
the first error; a list is read if each of its items is. -/

namespace Gatehouse

variable {ε δ α β : Type}

/-- One computation after another succeeds with the result of the second one. -/
@[simp] theorem Except.bind_ok_iff {x : Except ε α} {next : α → Except ε β} {b : β} :
    (x >>= next) = .ok b ↔ ∃ a, x = .ok a ∧ next a = .ok b := by
  cases x with
  | error e => exact ⟨nofun, fun ⟨_, h, _⟩ => nomatch h⟩
  | ok a => exact ⟨fun h => ⟨a, rfl, h⟩, fun ⟨_, h, hb⟩ => by cases h; exact hb⟩

/-- A sequence of two computations fails where the first one does, or where the second one does. -/
theorem Except.bind_error_iff {x : Except ε α} {next : α → Except ε β} {e : ε} :
    (x >>= next) = .error e ↔ x = .error e ∨ ∃ a, x = .ok a ∧ next a = .error e := by
  cases x with
  | error e' => exact ⟨fun h => .inl (by cases h; rfl), by rintro (h | ⟨_, h, _⟩) <;> cases h; rfl⟩
  | ok a => exact ⟨fun h => .inr ⟨a, rfl, h⟩, by rintro (h | ⟨_, h, he⟩) <;> cases h; exact he⟩

@[simp] theorem Except.mapError_ok_iff {x : Except ε α} {rename : ε → δ} {a : α} :
    x.mapError rename = .ok a ↔ x = .ok a := by
  cases x with
  | error e => exact ⟨nofun, nofun⟩
  | ok a => exact ⟨fun h => by cases h; rfl, fun h => by cases h; rfl⟩

@[simp] theorem Except.pure_ok_iff {a b : α} : (pure a : Except ε α) = .ok b ↔ a = b :=
  ⟨fun h => by cases h; rfl, fun h => by rw [h]; rfl⟩

theorem Except.map_ok_iff {x : Except ε α} {f : α → β} {b : β} :
    x.map f = .ok b ↔ ∃ a, x = .ok a ∧ f a = b := by
  cases x with
  | error e => exact ⟨nofun, fun ⟨_, h, _⟩ => nomatch h⟩
  | ok a => exact ⟨fun h => ⟨a, rfl, Except.ok.inj h⟩, by rintro ⟨_, h, rfl⟩; cases h; rfl⟩

theorem Except.map_error_iff {x : Except ε α} {f : α → β} {e : ε} :
    x.map f = .error e ↔ x = .error e := by
  cases x with
  | error e' => exact ⟨fun h => by cases h; rfl, fun h => by cases h; rfl⟩
  | ok a => exact ⟨nofun, nofun⟩

theorem Except.mapError_error_iff {x : Except ε α} {rename : ε → δ} {e : δ} :
    x.mapError rename = .error e ↔ ∃ e', x = .error e' ∧ rename e' = e := by
  cases x with
  | error e' => exact ⟨fun h => ⟨e', rfl, Except.error.inj h⟩, by rintro ⟨_, h, rfl⟩; cases h; rfl⟩
  | ok a => exact ⟨nofun, fun ⟨_, h, _⟩ => nomatch h⟩

/-- The error of a computation, if it fails. -/
def errorOf : Except ε α → Option ε
  | .error e => some e
  | .ok _ => none

@[simp] theorem errorOf_ok (a : α) : errorOf (.ok a : Except ε α) = none := rfl

@[simp] theorem errorOf_error (e : ε) : errorOf (.error e : Except ε α) = some e := rfl

theorem errorOf_eq_some_iff {x : Except ε α} {e : ε} : errorOf x = some e ↔ x = .error e := by
  cases x <;> simp

theorem errorOf_eq_none_iff {x : Except ε α} : errorOf x = none ↔ ∃ a, x = .ok a := by
  cases x <;> simp

@[simp] theorem errorOf_mapError (rename : ε → δ) (x : Except ε α) :
    errorOf (x.mapError rename) = (errorOf x).map rename := by
  cases x <;> rfl

@[simp] theorem errorOf_bind_ok (x : Except ε α) (f : α → β) :
    errorOf (x >>= fun a => .ok (f a)) = errorOf x := by
  cases x <;> rfl

/-- The first of two computations fails before the second one. -/
theorem errorOf_bind {x : Except ε α} {next : α → Except ε β} {first second : Option ε}
    (hFirst : errorOf x = first) (hSecond : ∀ a, x = .ok a → errorOf (next a) = second) :
    errorOf (x >>= next) = first.or second := by
  subst hFirst
  cases x with
  | error e => rfl
  | ok a => exact hSecond a rfl

/-! ### The first item of a list with something against it -/

theorem findSome?_cons_eq_or (f : α → Option β) (x : α) (xs : List α) :
    (x :: xs).findSome? f = (f x).or (xs.findSome? f) := by
  rw [List.findSome?_cons]
  cases f x <;> rfl

/-- What is found comes from an item with nothing before it. -/
theorem findSome?_eq_some_iff_first [DecidableEq α] {f : α → Option β} {xs : List α} {b : β} :
    xs.findSome? f = some b ↔
      ∃ x ∈ xs, f x = some b ∧ ∀ y ∈ xs.takeWhile (· != x), f y = none := by
  induction xs with
  | nil => simp
  | cons z zs ih =>
    rw [findSome?_cons_eq_or, Option.or_eq_some_iff, ih]
    constructor
    · rintro (hFound | ⟨hNone, x, hMem, hFound, hBefore⟩)
      · exact ⟨z, List.mem_cons_self, hFound, by simp⟩
      · have hNe : (z != x) = true := by
          rw [bne_iff_ne]
          rintro rfl
          rw [hNone] at hFound
          cases hFound
        refine ⟨x, List.mem_cons_of_mem _ hMem, hFound, ?_⟩
        rw [List.takeWhile_cons_of_pos (p := (· != x)) hNe]
        exact List.forall_mem_cons.mpr ⟨hNone, hBefore⟩
    · rintro ⟨x, hMem, hFound, hBefore⟩
      by_cases hFirst : z = x
      · exact .inl (hFirst ▸ hFound)
      · rw [List.takeWhile_cons_of_pos (p := (· != x)) (bne_iff_ne.mpr hFirst)] at hBefore
        obtain ⟨hNone, hBefore⟩ := List.forall_mem_cons.mp hBefore
        exact .inr ⟨hNone, x, List.mem_of_ne_of_mem (Ne.symm hFirst) hMem, hFound, hBefore⟩

/-! ### Lists whose items may fail to be read -/

variable {f : α → Option β} {xs : List α}

theorem mapM_eq_none_iff : xs.mapM f = none ↔ ∃ x ∈ xs, f x = none := by
  induction xs with
  | nil => simp
  | cons x xs ih =>
    rw [List.mapM_cons]
    cases hx : f x with
    | none => simp [hx]
    | some y =>
      cases hxs : xs.mapM f with
      | none => simpa [hx, hxs] using ih.mp hxs
      | some ys => simpa [hx, hxs] using ih

theorem mem_iff_of_mapM {ys : List β} (h : xs.mapM f = some ys) (y : β) :
    y ∈ ys ↔ ∃ x ∈ xs, f x = some y := by
  induction xs generalizing ys with
  | nil =>
    cases h
    simp
  | cons x xs ih =>
    rw [List.mapM_cons] at h
    obtain ⟨first, hFirst, hMore⟩ := Option.bind_eq_some_iff.mp h
    obtain ⟨rest, hRest, hAll⟩ := Option.bind_eq_some_iff.mp hMore
    cases hAll
    simp [ih hRest, hFirst, eq_comm]

end Gatehouse
