import Gatehouse.Identity.Gate
import Gatehouse.Proofs.Except
import Gatehouse.Proofs.Identity.Layers
import Gatehouse.Proofs.Text.Decimal

/-! What the identity headers say, part by part.  The number and the role are read independently of
each other; the number is checked first. -/

namespace Gatehouse.Identity

open Net Web Text

theorem parseUserId_error {raw : String} {e : IdentityError} (h : parseUserId raw = .error e) :
    e = .malformed := by
  rw [parseUserId] at h
  split at h
  · split at h
    · cases h
    · exact (Except.error.inj h).symm
  · exact (Except.error.inj h).symm

theorem parseUserId_ok_iff {raw : String} {id : UserId} :
    parseUserId raw = .ok id ↔ Decimal.Spells raw id.toNat := by
  constructor
  · intro h
    rw [parseUserId] at h
    split at h
    · rename_i n hDigits
      split at h
      · rename_i hBelow
        cases h
        rw [UInt32.toNat_ofNat_of_lt' hBelow, ← String.ofList_toList (s := raw)]
        exact Decimal.digits?_eq_some_iff.mp hDigits
      · cases h
    · cases h
  · intro h
    rw [parseUserId, Decimal.digits?_of_spells h]
    simp only [if_pos id.toNat_lt_size, UInt32.ofNat_toNat]

/-- The role in the headers, or that of a plain user. -/
def roleOrUser (headers : Headers) : String := (Principal.roleOfHeaders headers).getD userRole

theorem Principal.ofHeaders_eq (headers : Headers) (requireRole : Bool) :
    ofHeaders headers requireRole =
      match idOfHeaders headers with
      | .error e => .error e
      | .ok id =>
        if requireRole && (roleOfHeaders headers).isNone then .error .missingRole
        else .ok ⟨id, roleOrUser headers⟩ := by
  rw [ofHeaders]
  cases idOfHeaders headers with
  | error e => rfl
  | ok id =>
    simp only [roleOrUser]
    cases roleOfHeaders headers with
    | some role => cases requireRole <;> rfl
    | none => cases requireRole <;> rfl

theorem roleOrUser_ne_empty (headers : Headers) : roleOrUser headers ≠ "" := by
  rw [roleOrUser]
  cases h : Principal.roleOfHeaders headers with
  | none => decide
  | some role =>
    have hRole := Option.filter_eq_some_iff.mp h
    simpa using hRole.2

theorem Principal.role_of_ofHeaders {headers : Headers} {requireRole : Bool} {p : Principal}
    (h : ofHeaders headers requireRole = .ok p) : p.role = roleOrUser headers := by
  rw [ofHeaders_eq] at h
  split at h
  · cases h
  · split at h
    · cases h
    · cases h
      rfl

theorem GatewayPolicy.extract_ok_iff {policy : GatewayPolicy} {headers : Headers}
    {peer : Option SocketAddress} {p : Principal} :
    policy.extract headers peer = .ok p ↔
      policy.trust.admits peer = true ∧ Principal.ofHeaders headers policy.requireRole = .ok p := by
  rw [extract]
  by_cases h : policy.trust.admits peer = true <;> simp [h]

/-- A gateway layer with a gate for authenticated callers and one for roles behind it. -/
theorem Layer.passAll_guarded (headers : Headers) (peer : Option SocketAddress)
    (policy : GatewayPolicy) (gate : RoleGate) :
    passAll headers peer [.gateway policy, .authenticated, .role gate] Context.empty =
      match policy.extract headers peer with
      | .error e => .error (.ofIdentity e)
      | .ok p =>
        if p.id = 0 then .error .unauthenticated
        else if gate.allows p.role = true then .ok ⟨some p⟩
        else .error .forbidden := by
  rw [passAll_empty]
  cases h : policy.extract headers peer with
  | error e => simp only [h]
  | ok p =>
    have hRole : p.role ≠ "" := by
      rw [Principal.role_of_ofHeaders (GatewayPolicy.extract_ok_iff.mp h).2]
      exact roleOrUser_ne_empty headers
    simp only [h, passAll_attached, List.findSome?_cons, refusal]
    by_cases hId : p.id = 0
    · simp only [hId, if_true]
      rfl
    · by_cases hAllows : gate.allows p.role = true
      · rw [if_neg hId, if_neg hId, if_neg hId, if_pos ⟨hRole, hAllows⟩, if_pos hAllows]
        rfl
      · rw [if_neg hId, if_neg hId, if_neg hId, if_neg fun h => hAllows h.2, if_neg hAllows]
        rfl

theorem RoleGate.allows_iff {gate : RoleGate} {role : String} :
    gate.allows role = true ↔ ∃ name ∈ gate.roles, asciiLower name = asciiLower role := by
  simp only [allows, List.any_eq_true, sameUpToCase_iff]

end Gatehouse.Identity
