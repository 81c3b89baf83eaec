import Gatehouse.Proofs.Identity.Headers
import Gatehouse.Proofs.Text.Letter

/-! Gates for roles and the roles of callers.  A gate lets a request through exactly if its caller
is complete and has one of the roles, and handlers are then given this caller.  What a gate answers
depends on the roles only up to their order, their number and the case of their letters. -/

namespace Gatehouse.Identity

open Text

/-- The caller of the request is complete and has one of the roles. -/
structure Entitled (roles : List String) (c : Context) (p : Principal) : Prop where
  attached : c.principal = some p
  id_ne_zero : p.id ≠ 0
  role_ne_empty : p.role ≠ ""
  has_role : ∃ name ∈ roles, p.hasRole name = true

/-- The same roles up to the case of their letters, in any order, and each any number of times. -/
structure SameRoles (roles others : List String) : Prop where
  kept : ∀ name ∈ roles, ∃ other ∈ others, SameLetters name other
  found : ∀ other ∈ others, ∃ name ∈ roles, SameLetters name other

/-- The same caller but for the case of letters in the role, or no caller. -/
inductive SameCaller : Context → Context → Prop
  | nobody : SameCaller ⟨none⟩ ⟨none⟩
  | caller {p q : Principal} (hId : p.id = q.id) (hRole : SameLetters p.role q.role) :
      SameCaller ⟨some p⟩ ⟨some q⟩

theorem Principal.hasRole_iff {p : Principal} {name : String} :
    p.hasRole name = true ↔ SameLetters p.role name := sameUpToCase_iff_sameLetters

namespace RoleGate

variable {gate gate' : RoleGate} {roles : List String} {c c' : Context} {p : Principal}

/-- The gate and the caller compare roles in the same way. -/
theorem allows_role_iff :
    gate.allows p.role = true ↔ ∃ name ∈ gate.roles, p.hasRole name = true := by
  rw [allows_iff]
  refine exists_congr fun name => and_congr_right fun _ => ?_
  rw [Principal.hasRole, sameUpToCase_iff, eq_comm]

theorem anyOf_ok_iff : anyOf roles = .ok gate ↔ gate.roles = roles := by
  rw [anyOf]
  constructor
  · intro h
    split at h
    · cases h
    · cases h
      rfl
  · rintro rfl
    rw [dif_neg gate.isNonempty]

theorem entitled_iff {q : Principal} :
    Entitled gate.roles ⟨some p⟩ q ↔
      p = q ∧ p.id ≠ 0 ∧ p.role ≠ "" ∧ gate.allows p.role = true := by
  constructor
  · rintro ⟨hSame, hId, hRole, hHas⟩
    cases hSame
    exact ⟨rfl, hId, hRole, allows_role_iff.mpr hHas⟩
  · rintro ⟨rfl, hId, hRole, hAllows⟩
    exact ⟨rfl, hId, hRole, allows_role_iff.mp hAllows⟩

theorem check_nobody : gate.check ⟨none⟩ = .error .unauthenticated := rfl

theorem check_ok_iff : gate.check c = .ok () ↔ ∃ p, Entitled gate.roles c p := by
  obtain ⟨_ | p⟩ := c
  · exact iff_of_false nofun fun ⟨p, h⟩ => nomatch h.attached
  · simp only [entitled_iff, exists_and_right, exists_eq', true_and, check_attached]
    by_cases hId : p.id = 0
    · simp [hId]
    · by_cases hRole : p.role ≠ "" ∧ gate.allows p.role = true <;> simp [hId, hRole]

theorem check_unauthenticated_iff :
    gate.check c = .error .unauthenticated ↔
      c.principal = none ∨ ∃ p, c.principal = some p ∧ p.id = 0 := by
  obtain ⟨_ | p⟩ := c
  · exact iff_of_true rfl (.inl rfl)
  · rw [check_attached]
    by_cases hId : p.id = 0
    · simp [hId]
    · by_cases hRole : p.role ≠ "" ∧ gate.allows p.role = true <;> simp [hId, hRole]

theorem check_forbidden_iff :
    gate.check c = .error .forbidden ↔
      ∃ p, c.principal = some p ∧ p.id ≠ 0 ∧
        (p.role = "" ∨ ∀ name ∈ gate.roles, p.hasRole name = false) := by
  obtain ⟨_ | p⟩ := c
  · exact iff_of_false nofun fun ⟨p, h, _⟩ => nomatch h
  · have hNot : (¬gate.allows p.role = true) ↔ ∀ name ∈ gate.roles, p.hasRole name = false := by
      rw [allows_role_iff]
      simp
    simp only [Option.some.injEq, exists_eq_left', check_attached, ← hNot]
    by_cases hId : p.id = 0
    · simp [hId]
    · by_cases hRole : p.role = ""
      · simp [hId, hRole]
      · cases gate.allows p.role <;> simp [hId, hRole]

/-! ### What makes no difference -/

theorem allows_of_kept {s t : String}
    (hKept : ∀ name ∈ gate.roles, ∃ other ∈ gate'.roles, SameLetters name other)
    (hRole : SameLetters s t) (h : gate.allows s = true) : gate'.allows t = true := by
  obtain ⟨name, hName, hSame⟩ := allows_iff.mp h
  obtain ⟨other, hOther, hSpelling⟩ := hKept name hName
  refine allows_iff.mpr ⟨other, hOther, ?_⟩
  rw [← sameLetters_iff.mp hSpelling, hSame, sameLetters_iff.mp hRole]

theorem check_congr (hRoles : SameRoles gate.roles gate'.roles) (hCaller : SameCaller c c') :
    gate'.check c' = gate.check c := by
  cases hCaller with
  | nobody => rfl
  | @caller p q hId hRole =>
    have hFound : ∀ other ∈ gate'.roles, ∃ name ∈ gate.roles, SameLetters other name := by
      intro other hOther
      obtain ⟨name, hName, hSame⟩ := hRoles.found other hOther
      exact ⟨name, hName, hSame.symm⟩
    have hAllows : gate'.allows q.role = gate.allows p.role := Bool.eq_iff_iff.mpr
      ⟨allows_of_kept hFound hRole.symm, allows_of_kept hRoles.kept hRole⟩
    have hEmpty : q.role = "" ↔ p.role = "" := by
      rw [← asciiLower_eq_empty_iff, ← sameLetters_iff.mp hRole, asciiLower_eq_empty_iff]
    simp only [check_attached, ne_eq, hId, hEmpty, hAllows]

theorem caller_of_entitled (h : Entitled roles c p) : c.caller = .ok p := by
  obtain ⟨principal⟩ := c
  obtain rfl : principal = some p := h.attached
  rw [Context.caller_attached, if_neg (not_or.mpr ⟨h.id_ne_zero, h.role_ne_empty⟩)]

/-- The gate for one role lets a caller with that role through and no caller whose role differs in
more than the case of letters. -/
theorem check_single {q : Principal} (hGate : gate.roles = [p.role]) (hId : p.id ≠ 0)
    (hRole : p.role ≠ "") (hOther : ¬SameLetters p.role q.role) :
    gate.check ⟨some p⟩ = .ok () ∧ gate.check ⟨some q⟩ ≠ .ok () := by
  constructor
  · refine check_ok_iff.mpr ⟨p, rfl, hId, hRole, p.role, by simp [hGate], ?_⟩
    exact Principal.hasRole_iff.mpr (.refl p.role)
  · intro h
    obtain ⟨caller, hEntitled⟩ := check_ok_iff.mp h
    cases hEntitled.attached
    obtain ⟨name, hName, hHas⟩ := hEntitled.has_role
    rw [hGate, List.mem_singleton] at hName
    subst hName
    exact hOther (Principal.hasRole_iff.mp hHas).symm

/-- The gate for some roles lets a request through exactly if its caller is complete and has one of
the roles as callers have roles, and this caller is then the one that handlers are given.  Without a
caller it answers that there is none, and otherwise that the caller may not.  Order and number of
the roles and the case of letters make no difference, and all else does. -/
theorem check_agrees (roles : List String) (hRoles : roles ≠ []) :
    ∃ gate, anyOf roles = .ok gate ∧
      (∀ c,
        (gate.check c = .ok () ↔ ∃ p, Entitled roles c p) ∧
        (gate.check c = .error .unauthenticated ↔
          c.principal = none ∨ ∃ p, c.principal = some p ∧ p.id = 0) ∧
        (gate.check c = .error .forbidden ↔
          ∃ p, c.principal = some p ∧ p.id ≠ 0 ∧
            (p.role = "" ∨ ∀ name ∈ roles, p.hasRole name = false)) ∧
        ∀ p, Entitled roles c p → c.caller = .ok p) ∧
      (∀ others gate' c c', anyOf others = .ok gate' → SameRoles roles others → SameCaller c c' →
        gate'.check c' = gate.check c) ∧
      (∀ (p : Principal) name, p.hasRole name = true ↔ SameLetters p.role name) ∧
      ∀ p q : Principal, p.id ≠ 0 → p.role ≠ "" → ¬SameLetters p.role q.role →
        ∃ single, anyOf [p.role] = .ok single ∧
          single.check ⟨some p⟩ = .ok () ∧ single.check ⟨some q⟩ ≠ .ok () := by
  refine ⟨⟨roles, hRoles⟩, anyOf_ok_iff.mpr rfl, fun c => ?_, ?_, fun p name => p.hasRole_iff, ?_⟩
  · exact ⟨check_ok_iff, check_unauthenticated_iff, check_forbidden_iff,
      fun p hEntitled => caller_of_entitled hEntitled⟩
  · intro others gate' c c' hGate hSame hCaller
    refine check_congr ?_ hCaller
    rwa [anyOf_ok_iff.mp hGate]
  · intro p q hId hRole hOther
    exact ⟨⟨[p.role], by simp⟩, anyOf_ok_iff.mpr rfl, check_single rfl hId hRole hOther⟩

/-- An empty name among the roles admits nobody. -/
theorem editor_admitted :
    ["", "Editor"] ≠ [] ∧
      ∃ gate, anyOf ["", "Editor"] = .ok gate ∧
        gate.check ⟨some ⟨7, "eDITOR"⟩⟩ = .ok () ∧
        gate.check ⟨some ⟨7, ""⟩⟩ = .error .forbidden ∧
        gate.check ⟨some ⟨0, "editor"⟩⟩ = .error .unauthenticated := by
  obtain ⟨gate, hGate, hCheck, -⟩ := check_agrees ["", "Editor"] (by decide)
  refine ⟨by decide, gate, hGate, (hCheck _).1.mpr ⟨_, rfl, by decide, by decide, ?_⟩,
    (hCheck _).2.2.1.mpr ⟨_, rfl, by decide, .inl rfl⟩, (hCheck _).2.1.mpr (.inr ⟨_, rfl, rfl⟩)⟩
  exact ⟨"Editor", by decide, by decide⟩

end RoleGate

end Gatehouse.Identity
