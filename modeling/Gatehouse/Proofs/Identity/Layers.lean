import Gatehouse.Identity.Gate
import Gatehouse.Proofs.Except

/-! What gates and layers make of a request.  `Layer.refusal` is what a layer has against a caller.
Once a caller is attached, a stack of layers answers with the first refusal in it, and without one
it lets the request through with the caller it had. -/

namespace Gatehouse.Identity

open Net Web

namespace Context

theorem isAuthenticated_attached (p : Principal) :
    (⟨some p⟩ : Context).isAuthenticated = (p.id != 0) := rfl

theorem requireUserId_attached (p : Principal) :
    (⟨some p⟩ : Context).requireUserId = if p.id = 0 then .error .userIdNotFound else .ok p.id := by
  simp [requireUserId, userId]

theorem requireRole_attached (p : Principal) :
    (⟨some p⟩ : Context).requireRole =
      if p.role = "" then .error .roleNotFound else .ok p.role := by
  simp [requireRole, Context.role]

/-- Handlers are given the caller that is attached, if it has a number that is not 0 and a role
that is not empty. -/
theorem caller_attached (p : Principal) :
    (⟨some p⟩ : Context).caller =
      if p.id = 0 ∨ p.role = "" then .error .unauthenticated else .ok p := by
  simp only [caller, requireUserId_attached, requireRole_attached]
  by_cases hId : p.id = 0
  · simp only [hId, if_true, true_or]
    rfl
  · by_cases hRole : p.role = ""
    · simp only [hId, hRole, if_true, if_false, or_true]
      rfl
    · simp only [hId, hRole, if_false, or_self]
      rfl

end Context

theorem Principal.any_roles (p : Principal) (f : String → Bool) :
    p.roles.any f = (p.role != "" && f p.role) := by
  by_cases h : p.role = "" <;> simp [Principal.roles, h]

/-- A gate looks for a number first, and then for a role that it allows. -/
theorem RoleGate.check_attached (gate : RoleGate) (p : Principal) :
    gate.check ⟨some p⟩ =
      if p.id = 0 then .error .unauthenticated
      else if p.role ≠ "" ∧ gate.allows p.role = true then .ok ()
      else .error .forbidden := by
  simp only [check, Context.requireUserId_attached]
  by_cases hId : p.id = 0
  · simp only [hId, if_true]
    rfl
  · simp only [hId, if_false, Option.any_some, Principal.any_roles]
    by_cases hRole : p.role ≠ "" ∧ gate.allows p.role = true
    · rw [if_pos hRole, if_pos (by simpa using hRole)]
    · rw [if_neg hRole, if_neg (by simpa using hRole)]

namespace Layer

/-- What a layer has against the caller of a request. -/
def refusal (p : Principal) : Layer → Option ApiError
  | .gateway _ => none
  | .authenticated => if p.id = 0 then some .unauthenticated else none
  | .role gate =>
    if p.id = 0 then some .unauthenticated
    else if p.role ≠ "" ∧ gate.allows p.role = true then none
    else some .forbidden

theorem refusal_mem {p : Principal} {layer : Layer} {e : ApiError}
    (h : layer.refusal p = some e) : e = .unauthenticated ∨ e = .forbidden := by
  cases layer with
  | gateway policy => cases h
  | authenticated =>
    simp only [refusal, Option.ite_none_right_eq_some, Option.some.injEq] at h
    exact .inl h.2.symm
  | role gate =>
    simp only [refusal] at h
    split at h
    · exact .inl (by cases h; rfl)
    · split at h
      · cases h
      · exact .inr (by cases h; rfl)

theorem role_refusal_eq_none_iff {p : Principal} {gate : RoleGate} :
    (role gate).refusal p = none ↔ p.id ≠ 0 ∧ p.role ≠ "" ∧ gate.allows p.role = true := by
  simp only [refusal]
  by_cases hId : p.id = 0
  · simp [hId]
  · by_cases hRole : p.role ≠ "" ∧ gate.allows p.role = true <;> simp [hId, hRole]

/-- What becomes of a request that is refused for something, or for nothing. -/
def verdict (c : Context) : Option ApiError → Except ApiError Context
  | none => .ok c
  | some e => .error e

variable (headers : Headers) (peer : Option SocketAddress)

theorem pass_attached (layer : Layer) (p : Principal) :
    layer.pass headers peer ⟨some p⟩ = verdict ⟨some p⟩ (layer.refusal p) := by
  cases layer with
  | gateway policy => rfl
  | authenticated =>
    by_cases h : p.id = 0 <;> simp [pass, refusal, Context.isAuthenticated_attached, h, verdict]
  | role gate =>
    simp only [pass, refusal, RoleGate.check_attached]
    by_cases hId : p.id = 0
    · simp only [hId, if_true]
      rfl
    · by_cases hRole : p.role ≠ "" ∧ gate.allows p.role = true
      · simp only [if_neg hId, if_pos hRole]
        rfl
      · simp only [if_neg hId, if_neg hRole]
        rfl

/-- Behind an attached caller the first refusal in a stack is the answer, and the caller is never
replaced. -/
theorem passAll_attached (layers : List Layer) (p : Principal) :
    passAll headers peer layers ⟨some p⟩ = verdict ⟨some p⟩ (layers.findSome? (refusal p)) := by
  induction layers with
  | nil => rfl
  | cons layer layers ih =>
    simp only [passAll, List.foldlM_cons, pass_attached, List.findSome?_cons] at ih ⊢
    cases layer.refusal p with
    | none => exact ih
    | some e => rfl

/-- Without a caller, a stack of layers lets nothing through before its first gateway layer. -/
theorem passAll_empty (layers : List Layer) :
    passAll headers peer layers Context.empty =
      match layers with
      | [] => .ok Context.empty
      | .gateway policy :: inner =>
        match policy.extract headers peer with
        | .ok p => passAll headers peer inner ⟨some p⟩
        | .error e => .error (.ofIdentity e)
      | _ => .error .unauthenticated := by
  cases layers with
  | nil => rfl
  | cons layer inner =>
    cases layer with
    | gateway policy =>
      simp only [passAll, List.foldlM_cons, pass, Context.empty]
      cases policy.extract headers peer <;> rfl
    | authenticated => rfl
    | role gate => rfl

end Layer

end Gatehouse.Identity
