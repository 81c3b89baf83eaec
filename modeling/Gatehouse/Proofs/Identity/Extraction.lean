import Gatehouse.Proofs.Identity.Headers
import Gatehouse.Proofs.Text.Blank
import Gatehouse.Proofs.Web.Header

/-! Who the headers say the caller is.  The number is spelled by the first header for it and the
role is in the first header for it; each error says what is wrong with which of the two.  Nothing
else of the headers counts. -/

namespace Gatehouse.Identity

open Text Web

/-- The headers give the number in decimal digits, with any number of zeros in front. -/
def NamesUser (headers : Headers) (n : Nat) : Prop :=
  ∃ text, headers.HasText userIdHeader text ∧ Decimal.Spells text n

/-- There is no header for the number, or the first one is empty. -/
def LacksUser (headers : Headers) : Prop :=
  headers.first? userIdHeader = none ∨ headers.first? userIdHeader = some []

/-- The headers give the role, which may stand between blank characters. -/
def NamesRole (headers : Headers) (role : String) : Prop :=
  ∃ text, headers.HasText userRoleHeader text ∧ isBlankText text = false ∧ role = trim text

/-- The header says nothing after those in front of it: it is for neither the number nor the role,
or it is not the first one for it. -/
def IsIdle (front : Headers) (h : String × List UInt8) : Prop :=
  ∀ name ∈ [userIdHeader, userRoleHeader], sameUpToCase h.1 name = true →
    ∃ earlier ∈ front, sameUpToCase earlier.1 name = true

namespace Principal

variable {headers others : Headers} {requireRole : Bool}

/-! ### The number -/

theorem idOfHeaders_ok_iff {id : UserId} :
    idOfHeaders headers = .ok id ↔ NamesUser headers id.toNat := by
  simp only [idOfHeaders, NamesUser, Headers.HasText]
  cases headers.first? userIdHeader with
  | none => simp
  | some value =>
    simp only [Option.bind_some]
    cases readable? value with
    | none => simp
    | some raw =>
      simp only [Option.some.injEq, exists_eq_left']
      by_cases hEmpty : raw = ""
      · subst hEmpty
        exact iff_of_false nofun fun h => h.nonempty rfl
      · rw [if_neg (by simpa using hEmpty), parseUserId_ok_iff]

theorem idOfHeaders_missing_iff : idOfHeaders headers = .error .missing ↔ LacksUser headers := by
  simp only [idOfHeaders, LacksUser]
  cases headers.first? userIdHeader with
  | none => simp
  | some value =>
    simp only [reduceCtorEq, Option.some.injEq, false_or, ← readable?_eq_some_empty_iff]
    cases readable? value with
    | none => simp
    | some raw =>
      by_cases hEmpty : raw = ""
      · simp [hEmpty]
      · have hParse : parseUserId raw ≠ .error .missing := fun h => nomatch parseUserId_error h
        simp [hEmpty, hParse]

theorem idOfHeaders_error {e : IdentityError} (h : idOfHeaders headers = .error e) :
    e = .missing ∨ e = .malformed := by
  rw [idOfHeaders] at h
  split at h
  · exact .inl (Except.error.inj h).symm
  · split at h
    · exact .inr (Except.error.inj h).symm
    · split at h
      · exact .inl (Except.error.inj h).symm
      · exact .inr (parseUserId_error h)

/-- The number is known if the headers give one below `2 ^ 32`. -/
theorem exists_idOfHeaders_iff :
    (∃ id, idOfHeaders headers = .ok id) ↔ ∃ n < 2 ^ 32, NamesUser headers n := by
  simp only [idOfHeaders_ok_iff]
  constructor
  · rintro ⟨id, h⟩
    exact ⟨id.toNat, id.toNat_lt, h⟩
  · rintro ⟨n, hBelow, h⟩
    refine ⟨UInt32.ofNat n, ?_⟩
    rwa [UInt32.toNat_ofNat_of_lt' hBelow]

theorem idOfHeaders_malformed_iff :
    idOfHeaders headers = .error .malformed ↔
      ¬LacksUser headers ∧ ¬∃ n < 2 ^ 32, NamesUser headers n := by
  rw [← idOfHeaders_missing_iff, ← exists_idOfHeaders_iff]
  cases hId : idOfHeaders headers with
  | ok id => simp
  | error e => rcases idOfHeaders_error hId with rfl | rfl <;> simp

/-! ### The role -/

theorem roleOfHeaders_eq_some_iff {role : String} :
    roleOfHeaders headers = some role ↔ NamesRole headers role := by
  simp only [roleOfHeaders, NamesRole, Headers.HasText, Option.filter_eq_some_iff,
    Option.map_eq_some_iff]
  constructor
  · rintro ⟨⟨text, hText, rfl⟩, hSome⟩
    refine ⟨text, hText, Bool.eq_false_iff.mpr fun hBlank => ?_, rfl⟩
    rw [trim_eq_empty_iff.mpr hBlank] at hSome
    cases hSome
  · rintro ⟨text, hText, hBlank, rfl⟩
    refine ⟨⟨text, hText, rfl⟩, ?_⟩
    have hSome : trim text ≠ "" := fun hEmpty => by
      rw [trim_eq_empty_iff.mp hEmpty] at hBlank
      cases hBlank
    simpa using hSome

theorem roleOfHeaders_eq_none_iff :
    roleOfHeaders headers = none ↔ ∀ role, ¬NamesRole headers role := by
  simp only [Option.eq_none_iff_forall_ne_some, ne_eq, roleOfHeaders_eq_some_iff]

/-! ### The caller -/

theorem ofHeaders_ok_iff {p : Principal} :
    ofHeaders headers requireRole = .ok p ↔
      NamesUser headers p.id.toNat ∧
        (NamesRole headers p.role ∨
          requireRole = false ∧ p.role = userRole ∧ ∀ role, ¬NamesRole headers role) := by
  rw [← idOfHeaders_ok_iff, ← roleOfHeaders_eq_some_iff, ← roleOfHeaders_eq_none_iff, ofHeaders_eq,
    roleOrUser]
  obtain ⟨id, role⟩ := p
  cases idOfHeaders headers with
  | error e => simp
  | ok id' =>
    cases roleOfHeaders headers with
    | some role' => simp
    | none => cases requireRole <;> simp [eq_comm]

/-- The number is settled first, and a lacking role is an error only where one is required. -/
theorem ofHeaders_error_iff {e : IdentityError} :
    ofHeaders headers requireRole = .error e ↔
      idOfHeaders headers = .error e ∨
        e = .missingRole ∧ (∃ id, idOfHeaders headers = .ok id) ∧ requireRole = true ∧
          roleOfHeaders headers = none := by
  rw [ofHeaders_eq]
  cases idOfHeaders headers with
  | error e' => simp
  | ok id =>
    cases roleOfHeaders headers with
    | some role => simp
    | none => cases requireRole <;> simp [eq_comm]

theorem ofHeaders_error_of_ne {e : IdentityError} (h : e ≠ .missingRole) :
    ofHeaders headers requireRole = .error e ↔ idOfHeaders headers = .error e := by
  rw [ofHeaders_error_iff, or_iff_left fun hRole => h hRole.1]

theorem ofHeaders_missingRole_iff :
    ofHeaders headers requireRole = .error .missingRole ↔
      (∃ n < 2 ^ 32, NamesUser headers n) ∧ requireRole = true ∧
        ∀ role, ¬NamesRole headers role := by
  have hId : idOfHeaders headers ≠ .error .missingRole := fun h => by
    rcases idOfHeaders_error h with hError | hError <;> cases hError
  rw [ofHeaders_error_iff, or_iff_right hId, exists_idOfHeaders_iff, roleOfHeaders_eq_none_iff,
    and_iff_right rfl]

/-- Only the first header for the number and the first one for the role are read. -/
theorem ofHeaders_congr
    (h : ∀ name ∈ [userIdHeader, userRoleHeader], others.first? name = headers.first? name) :
    ofHeaders others requireRole = ofHeaders headers requireRole := by
  have hId := h userIdHeader (by simp)
  have hRole := h userRoleHeader (by simp)
  simp only [ofHeaders, idOfHeaders, roleOfHeaders, hId, hRole]

/-- A number in decimal digits is read as the number. -/
theorem ofHeaders_decimal (id : UserId) (headers : Headers) :
    ofHeaders ((userIdHeader, Utf8.encode (toString id.toNat)) :: headers) false =
      .ok ⟨id, roleOrUser headers⟩ := by
  have hSpells := Decimal.spells_toString id.toNat
  have hRead : readable? (Utf8.encode (toString id.toNat)) = some (toString id.toNat) :=
    readable?_encode fun c hc => by
      have := Decimal.isDigit_bounds (hSpells.digits c hc)
      omega
  have hUser : ∀ value,
      Headers.first? ((userIdHeader, value) :: headers) userIdHeader = some value := fun value => by
    rw [Headers.first?_eq_head?, Headers.valuesOf_cons_same (by decide), List.head?_cons]
  have hOther : ∀ value, Headers.first? ((userIdHeader, value) :: headers) userRoleHeader =
      headers.first? userRoleHeader := fun value => by
    rw [Headers.first?_eq_head?, Headers.valuesOf_cons_other (by decide), Headers.first?_eq_head?]
  have hId : idOfHeaders ((userIdHeader, Utf8.encode (toString id.toNat)) :: headers) = .ok id := by
    refine idOfHeaders_ok_iff.mpr ⟨_, ?_, hSpells⟩
    rw [Headers.HasText, hUser]
    exact hRead
  rw [ofHeaders_eq, hId, roleOrUser, roleOfHeaders, hOther, ← roleOfHeaders, ← roleOrUser]
  rfl

/-- The caller that the headers name, or the one thing that is wrong with them, in the order in
which it is looked for. -/
theorem ofHeaders_decides (headers : Headers) (requireRole : Bool) :
    (∀ p, ofHeaders headers requireRole = .ok p ↔
      NamesUser headers p.id.toNat ∧
        (NamesRole headers p.role ∨
          requireRole = false ∧ p.role = "user" ∧ ∀ role, ¬NamesRole headers role)) ∧
    (ofHeaders headers requireRole = .error .missing ↔ LacksUser headers) ∧
    (ofHeaders headers requireRole = .error .malformed ↔
      ¬LacksUser headers ∧ ¬∃ n < 2 ^ 32, NamesUser headers n) ∧
    (ofHeaders headers requireRole = .error .missingRole ↔
      (∃ n < 2 ^ 32, NamesUser headers n) ∧ requireRole = true ∧
        ∀ role, ¬NamesRole headers role) ∧
    (∀ p, ofHeaders headers requireRole = .ok p → p.role ≠ "") ∧
    (∀ id : UserId, ∃ role,
      ofHeaders ((userIdHeader, Utf8.encode (toString id.toNat)) :: headers) false =
        .ok ⟨id, role⟩) ∧
    (∀ front h back, headers = front ++ back → IsIdle front h →
      ofHeaders (front ++ h :: back) requireRole = ofHeaders headers requireRole) ∧
    ∀ others : Headers, (∀ name, others.valuesOf name = headers.valuesOf name) →
      ofHeaders others requireRole = ofHeaders headers requireRole := by
  refine ⟨fun p => ofHeaders_ok_iff, ?missing, ?malformed, ofHeaders_missingRole_iff, ?role,
    ?decimal, ?idle, ?order⟩
  case missing => rw [ofHeaders_error_of_ne (by decide), idOfHeaders_missing_iff]
  case malformed => rw [ofHeaders_error_of_ne (by decide), idOfHeaders_malformed_iff]
  case role =>
    intro p h
    rw [role_of_ofHeaders h]
    exact roleOrUser_ne_empty headers
  case decimal => exact fun id => ⟨_, ofHeaders_decimal id headers⟩
  case idle =>
    rintro front h back rfl hIdle
    exact ofHeaders_congr fun name hName => Headers.first?_insert (hIdle name hName) back
  case order =>
    intro others hSame
    refine ofHeaders_congr fun name _ => ?_
    rw [Headers.first?_eq_head?, hSame, ← Headers.first?_eq_head?]

end Principal

end Gatehouse.Identity
