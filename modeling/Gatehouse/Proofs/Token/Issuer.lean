import Gatehouse.Proofs.Dialogue
import Gatehouse.Proofs.Identity.Headers
import Gatehouse.Proofs.Token.Payload

/-! Issuing pairs.  The lookup is consulted where no roles are given and there is one; if it fails,
so does the issuance, and otherwise both tokens are there. -/

namespace Gatehouse.Token

open Identity Roles

variable {Question : Type} {Answer : Question → Type} {σ : Type}

theorem parseUserId_subjectText (user : UserId) : parseUserId (subjectText user) = .ok user :=
  parseUserId_ok_iff.mpr (Text.Decimal.spells_toString user.toNat)

/-! ### Pairs with known roles -/

/-- The access token of a pair carries the roles, and both tokens are the subject's. -/
def Carries (issuer : Issuer Question Answer) (subject : Subject) (names : List String)
    (p : TokenPair) : Prop :=
  ∃ access refresh, AccessPayload.ofToken? p.accessToken = some access ∧
    RefreshPayload.ofToken? p.refreshToken = some refresh ∧
    access.roles = names ∧ access.sub = refresh.sub ∧
    parseUserId access.sub = .ok subject.user ∧ access.iat = access.nbf ∧
    refresh.iat = refresh.nbf ∧ p.expiresIn = issuer.settings.accessTtl

variable (issuer : Issuer Question Answer) (stamp : Stamp) (subject : Subject)

def Issuer.accessClaims (names : List String) : AccessClaims :=
  ⟨subject.user, subject.email, subject.name, names,
    ⟨stamp.accessNow, expiry stamp.accessNow issuer.settings.accessTtl, stamp.accessId⟩⟩

def Issuer.refreshClaims : RefreshClaims :=
  ⟨subject.user,
    ⟨stamp.refreshNow, expiry stamp.refreshNow issuer.settings.refreshTtl, stamp.refreshId⟩⟩

/-- The pair whose access token carries some roles. -/
def Issuer.pairFor (names : List String) : TokenPair where
  accessToken := signed issuer.settings.secret (issuer.accessClaims stamp subject names).toJson
  refreshToken := signed issuer.settings.secret (issuer.refreshClaims stamp subject).toJson
  expiresIn := issuer.settings.accessTtl

theorem carries_pairFor (names : List String) :
    Carries issuer subject names (issuer.pairFor stamp subject names) := by
  have hAccess := accessPayload_accessClaims (issuer.accessClaims stamp subject names)
  have hRefresh := refreshPayload_refreshClaims (issuer.refreshClaims stamp subject)
  rw [← AccessPayload.ofToken?_signed issuer.settings.secret] at hAccess
  rw [← RefreshPayload.ofToken?_signed issuer.settings.secret] at hRefresh
  exact ⟨_, _, hAccess, hRefresh, rfl, rfl, parseUserId_subjectText subject.user, rfl, rfl, rfl⟩

/-- What an answer of the lookup comes to. -/
def Issuer.pairAfter (answer : LookupAnswer) : Except ApiError TokenPair :=
  match answer with
  | .roles names => .ok (issuer.pairFor stamp subject names)
  | .failed _ | .silent => .error .roleLookupFailed

theorem issuePair_lookup {lookup : UserId → Dialogue Question Answer LookupAnswer}
    (h : issuer.lookup = some lookup) :
    issuer.issuePair stamp subject none =
      (lookup subject.user).bind fun answer => .done (issuer.pairAfter stamp subject answer) := by
  have hResolve : issuer.resolveRoles subject.user =
      (lookup subject.user).bind fun answer => .done
        ((answer.within issuer.lookupTimeout).mapError fun _ => .roleLookupFailed) := by
    rw [Issuer.resolveRoles, h]
    refine congrArg (lookup subject.user).bind (funext fun answer => ?_)
    cases answer <;> rfl
  rw [Issuer.issuePair, Issuer.issueAccess]
  simp only [hResolve, Dialogue.bind_eq, Dialogue.bind_assoc]
  refine congrArg (lookup subject.user).bind (funext fun answer => ?_)
  cases answer <;> rfl

/-- Where the roles of a pair are looked for. -/
def Issuer.source (roles : Option (List String)) : Dialogue Question Answer LookupAnswer :=
  match roles, issuer.lookup with
  | some names, _ => .done (.roles names)
  | none, none => .done (.roles [])
  | none, some lookup => lookup subject.user

theorem source_no_lookup (h : issuer.lookup = none) :
    issuer.source subject none = .done (.roles []) := by
  simp only [Issuer.source, h]

theorem source_lookup {lookup : UserId → Dialogue Question Answer LookupAnswer}
    (h : issuer.lookup = some lookup) : issuer.source subject none = lookup subject.user := by
  simp only [Issuer.source, h]

theorem issuePair_eq (roles : Option (List String)) :
    issuer.issuePair stamp subject roles =
      (issuer.source subject roles).bind fun answer =>
        .done (issuer.pairAfter stamp subject answer) := by
  cases roles with
  | some names => rfl
  | none =>
    cases hLookup : issuer.lookup with
    | none =>
      have hResolve : issuer.resolveRoles subject.user = .done (.ok []) := by
        rw [Issuer.resolveRoles, hLookup]
        rfl
      rw [Issuer.issuePair, Issuer.issueAccess, source_no_lookup issuer subject hLookup]
      simp only [hResolve]
      rfl
    | some lookup =>
      rw [issuePair_lookup _ _ _ hLookup, source_lookup issuer subject hLookup]

/-! ### Pairs with roles of any source -/

variable (respond : (q : Question) → σ → Option (Answer q) × σ) (s : σ)

/-- What the lookup answers where a pair consults it. -/
def Consulted (roles : Option (List String)) (answer : LookupAnswer) : Prop :=
  roles = none ∧ ∃ lookup, issuer.lookup = some lookup ∧
    ((lookup subject.user).run respond s).1 = some answer

/-- Where the roles of a pair come from. -/
inductive RolesFrom : Option (List String) → List String → Prop
  | given (names : List String) : RolesFrom (some names) names
  | noLookup (h : issuer.lookup = none) : RolesFrom none []
  | answer {roles : Option (List String)} {names : List String}
      (h : Consulted issuer subject respond s roles (.roles names)) : RolesFrom roles names

/-- The answer of the source is the roles that are given, none, or what the lookup answers. -/
theorem run_source_eq_some {roles : Option (List String)} {answer : LookupAnswer}
    (h : ((issuer.source subject roles).run respond s).1 = some answer) :
    (∃ names, answer = .roles names ∧ RolesFrom issuer subject respond s roles names) ∨
      Consulted issuer subject respond s roles answer := by
  unfold Issuer.source at h
  split at h
  · cases h
    exact .inl ⟨_, rfl, .given _⟩
  · rename_i hLookup
    cases h
    exact .inl ⟨[], rfl, .noLookup hLookup⟩
  · rename_i lookup hLookup
    exact .inr ⟨rfl, lookup, hLookup, h⟩

theorem Consulted.run_source {roles : Option (List String)} {answer : LookupAnswer}
    (h : Consulted issuer subject respond s roles answer) :
    ((issuer.source subject roles).run respond s).1 = some answer := by
  obtain ⟨rfl, lookup, hLookup, hAnswer⟩ := h
  rwa [source_lookup issuer subject hLookup]

theorem RolesFrom.run_source {roles : Option (List String)} {names : List String}
    (h : RolesFrom issuer subject respond s roles names) :
    ((issuer.source subject roles).run respond s).1 = some (.roles names) := by
  cases h with
  | given => rfl
  | noLookup hLookup =>
    rw [source_no_lookup issuer subject hLookup]
    rfl
  | answer h => exact h.run_source

/-- A pair is issued as a whole or not at all, and the lookup is consulted exactly where no roles
are given and there is one. -/
theorem pair_all_or_nothing (roles : Option (List String)) :
    ((issuer.issuePair stamp subject roles).asked respond s =
      match roles, issuer.lookup with
      | none, some lookup => (lookup subject.user).asked respond s
      | _, _ => []) ∧
    (∀ e, ((issuer.issuePair stamp subject roles).run respond s).1 = some (.error e) ↔
      e = .roleLookupFailed ∧
        (Consulted issuer subject respond s roles .silent ∨
          ∃ why, Consulted issuer subject respond s roles (.failed why))) ∧
    (∀ names, RolesFrom issuer subject respond s roles names →
      ∃ p, ((issuer.issuePair stamp subject roles).run respond s).1 = some (.ok p) ∧
        Carries issuer subject names p) ∧
    ∀ p, ((issuer.issuePair stamp subject roles).run respond s).1 = some (.ok p) →
      ∃ names, RolesFrom issuer subject respond s roles names ∧ Carries issuer subject names p := by
  rw [issuePair_eq, Dialogue.asked_map, Dialogue.run_map]
  refine ⟨?_, fun e => ⟨fun h => ?_, ?_⟩, fun names hFrom => ?_, fun p h => ?_⟩
  · cases roles with
    | some names => rfl
    | none =>
      cases hLookup : issuer.lookup with
      | none =>
        rw [source_no_lookup issuer subject hLookup]
        rfl
      | some lookup => rw [source_lookup issuer subject hLookup]
  · obtain ⟨answer, hAnswer, hAfter⟩ := Option.map_eq_some_iff.mp h
    rcases run_source_eq_some _ _ _ _ hAnswer with ⟨names, rfl, -⟩ | hConsulted
    · cases hAfter
    · cases answer with
      | roles names => cases hAfter
      | failed why =>
        cases hAfter
        exact ⟨rfl, .inr ⟨why, hConsulted⟩⟩
      | silent =>
        cases hAfter
        exact ⟨rfl, .inl hConsulted⟩
  · rintro ⟨rfl, hSilent | ⟨why, hFailed⟩⟩
    · rw [hSilent.run_source]
      rfl
    · rw [hFailed.run_source]
      rfl
  · rw [hFrom.run_source]
    exact ⟨_, rfl, carries_pairFor issuer stamp subject names⟩
  · obtain ⟨answer, hAnswer, hAfter⟩ := Option.map_eq_some_iff.mp h
    cases answer with
    | roles names =>
      cases hAfter
      have hCarries := carries_pairFor issuer stamp subject names
      rcases run_source_eq_some _ _ _ _ hAnswer with ⟨_, ⟨⟩, hFrom⟩ | hConsulted
      · exact ⟨names, hFrom, hCarries⟩
      · exact ⟨names, .answer hConsulted, hCarries⟩
    | failed why => cases hAfter
    | silent => cases hAfter

/-- An issuer whose lookup is one question to a source of roles. -/
def sampleIssuer : Issuer UserId (fun _ => LookupAnswer) where
  settings := { secret := "test-secret", accessTtl := 900, refreshTtl := 604800 }
  lookup := some Dialogue.question
  lookupTimeout := .ofSeconds 5

theorem editor_looked_up :
    let subject : Subject := ⟨42, "alice@example.com", "alice"⟩
    let respond := fun (_ : UserId) (calls : Nat) =>
      (some (LookupAnswer.roles ["editor"]), calls + 1)
    (sampleIssuer.issuePair ⟨0, 1, "a", "r"⟩ subject none).asked respond 0 = [42] ∧
      RolesFrom sampleIssuer subject respond 0 none ["editor"] ∧
      ∃ p, ((sampleIssuer.issuePair ⟨0, 1, "a", "r"⟩ subject none).run respond 0).1 = some (.ok p) ∧
        Carries sampleIssuer subject ["editor"] p := by
  intro subject respond
  have hFrom : RolesFrom sampleIssuer subject respond 0 none ["editor"] :=
    .answer ⟨rfl, _, rfl, rfl⟩
  obtain ⟨hAsked, -, hIssued, -⟩ :=
    pair_all_or_nothing sampleIssuer ⟨0, 1, "a", "r"⟩ subject respond 0 none
  exact ⟨hAsked, hFrom, hIssued _ hFrom⟩

end Gatehouse.Token
