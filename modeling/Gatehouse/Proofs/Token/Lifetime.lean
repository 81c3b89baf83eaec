import Gatehouse.Proofs.Loading
import Gatehouse.Proofs.Token.Issuer

/-! How long tokens are good.  A lifetime is any positive number of 64 bits, and the end of a token
is a sum of 64 bits with a sign.  Where the sum fits, the token is good for its lifetime; where it
does not, the sum wraps around, and the token has run out before it is issued. -/

namespace Gatehouse.Token

open Identity Roles Settings

/-! ### The end of a lifetime -/

variable {now : Seconds} {ttl : UInt64}

theorem toInt_toInt64 (ttl : UInt64) : ttl.toInt64.toInt = (ttl.toNat : Int).bmod (2 ^ 64) :=
  BitVec.toInt_eq_toNat_bmod ttl.toBitVec

theorem expiry_toInt (now : Seconds) (ttl : UInt64) :
    (expiry now ttl).toInt = (now.toInt + ttl.toNat).bmod (2 ^ 64) := by
  rw [expiry, Int64.toInt_add, toInt_toInt64, Int.add_bmod_bmod]

/-- The end of a lifetime is a time that 64 bits can hold. -/
def EndFits (now : Seconds) (ttl : UInt64) : Prop := now.toInt + ttl.toNat < 2 ^ 63

instance (now : Seconds) (ttl : UInt64) : Decidable (EndFits now ttl) := Int.decLt ..

theorem expiry_of_endFits (hNow : 0 ≤ now.toInt) (h : EndFits now ttl) :
    (expiry now ttl).toInt = now.toInt + ttl.toNat := by
  unfold EndFits at h
  rw [expiry_toInt]
  exact Int.bmod_eq_of_le (by omega) (by omega)

theorem expiry_of_not_endFits (h : ¬EndFits now ttl) :
    (expiry now ttl).toInt = now.toInt + ttl.toNat - 2 ^ 64 := by
  unfold EndFits at h
  have hNow : now.toInt < 2 ^ 63 := now.toInt_lt
  have hTtl : ttl.toNat < 2 ^ 64 := ttl.toNat_lt
  rw [expiry_toInt, Int.bmod_eq_emod]
  split <;> omega

/-- The times of a token that is issued now and is to be good for some seconds.  It is if the end
fits, and otherwise it has already run out. -/
structure Dated (now : Seconds) (ttl : UInt64) (iat exp : Seconds) : Prop where
  issued : iat = now
  kept : EndFits now ttl → exp.toInt - iat.toInt = ttl.toNat ∧ iat < exp
  wrapped : ¬EndFits now ttl → exp.toInt - iat.toInt = ttl.toNat - 2 ^ 64 ∧ exp < iat

theorem dated_expiry (hNow : 0 ≤ now.toInt) (hTtl : ttl ≠ 0) :
    Dated now ttl now (expiry now ttl) := by
  have hPositive : 0 < ttl.toNat := UInt64.pos_iff_ne_zero.mpr hTtl
  have hBelow : ttl.toNat < 2 ^ 64 := ttl.toNat_lt
  refine ⟨rfl, fun h => ?_, fun h => ?_⟩
  · have hEnd := expiry_of_endFits hNow h
    exact ⟨by omega, Int64.lt_iff_toInt_lt.mpr (by omega)⟩
  · have hEnd := expiry_of_not_endFits h
    exact ⟨by omega, Int64.lt_iff_toInt_lt.mpr (by omega)⟩

/-! ### The lifetimes of a pair -/

variable {Question : Type} {Answer : Question → Type} {σ : Type}

section

variable {get : String → Option String} {settings : Settings}

theorem accessTtl_ne_zero (h : load get = .ok settings) : settings.tokens.accessTtl ≠ 0 :=
  (tokenTtl_ok_iff.mp (loads_of_load h).accessTtl).2

theorem refreshTtl_ne_zero (h : load get = .ok settings) : settings.tokens.refreshTtl ≠ 0 :=
  (tokenTtl_ok_iff.mp (loads_of_load h).refreshTtl).2

end

variable (issuer : Issuer Question Answer) (stamp : Stamp) (subject : Subject)

theorem accessToken_dated (hNow : 0 ≤ stamp.accessNow.toInt)
    (hTtl : issuer.settings.accessTtl ≠ 0) (names : List String) :
    ∃ token access, issuer.accessToken stamp subject names = .ok token ∧
      AccessPayload.ofToken? token = some access ∧
      Dated stamp.accessNow issuer.settings.accessTtl access.iat access.exp := by
  have hPayload := accessPayload_accessClaims (issuer.accessClaims stamp subject names)
  rw [← AccessPayload.ofToken?_signed issuer.settings.secret] at hPayload
  exact ⟨_, _, rfl, hPayload, dated_expiry hNow hTtl⟩

theorem refreshToken_dated (hNow : 0 ≤ stamp.refreshNow.toInt)
    (hTtl : issuer.settings.refreshTtl ≠ 0) :
    ∃ token refresh, issuer.refreshToken stamp subject.user = .ok token ∧
      RefreshPayload.ofToken? token = some refresh ∧
      Dated stamp.refreshNow issuer.settings.refreshTtl refresh.iat refresh.exp := by
  have hPayload := refreshPayload_refreshClaims (issuer.refreshClaims stamp subject)
  rw [← RefreshPayload.ofToken?_signed issuer.settings.secret] at hPayload
  exact ⟨_, _, rfl, hPayload, dated_expiry hNow hTtl⟩

variable (respond : (q : Question) → σ → Option (Answer q) × σ) (s : σ)

/-- A pair for roles of any source consists of the two tokens, and says how long the first one is
good. -/
theorem issuePair_of_rolesFrom {roles : Option (List String)} {names : List String}
    (h : RolesFrom issuer subject respond s roles names) :
    ∃ p, ((issuer.issuePair stamp subject roles).run respond s).1 = some (.ok p) ∧
      issuer.accessToken stamp subject names = .ok p.accessToken ∧
      issuer.refreshToken stamp subject.user = .ok p.refreshToken ∧
      p.expiresIn = issuer.settings.accessTtl := by
  refine ⟨issuer.pairFor stamp subject names, ?_, rfl, rfl, rfl⟩
  rw [issuePair_eq, Dialogue.run_map, h.run_source]
  rfl

/-- Under settings that were loaded, both tokens of a pair are good for the lifetimes that are set,
and the pair says so, as long as the end of the lifetime fits.  Otherwise they have run out before
they are issued. -/
theorem lifetimes_kept_while_fitting {get : String → Option String} {settings : Settings}
    (hLoad : load get = .ok settings) (hIssuer : issuer.settings = settings.tokens)
    (hAccessNow : 0 ≤ stamp.accessNow.toInt) (hRefreshNow : 0 ≤ stamp.refreshNow.toInt) :
    (∀ names, ∃ token access, issuer.accessToken stamp subject names = .ok token ∧
      AccessPayload.ofToken? token = some access ∧
      Dated stamp.accessNow settings.tokens.accessTtl access.iat access.exp) ∧
    (∃ token refresh, issuer.refreshToken stamp subject.user = .ok token ∧
      RefreshPayload.ofToken? token = some refresh ∧
      Dated stamp.refreshNow settings.tokens.refreshTtl refresh.iat refresh.exp) ∧
    ∀ roles names, RolesFrom issuer subject respond s roles names →
      ∃ p, ((issuer.issuePair stamp subject roles).run respond s).1 = some (.ok p) ∧
        issuer.accessToken stamp subject names = .ok p.accessToken ∧
        issuer.refreshToken stamp subject.user = .ok p.refreshToken ∧
        p.expiresIn = settings.tokens.accessTtl := by
  have hAccess : issuer.settings.accessTtl ≠ 0 := hIssuer ▸ accessTtl_ne_zero hLoad
  have hRefresh : issuer.settings.refreshTtl ≠ 0 := hIssuer ▸ refreshTtl_ne_zero hLoad
  rw [← hIssuer]
  exact ⟨accessToken_dated issuer stamp subject hAccessNow hAccess,
    refreshToken_dated issuer stamp subject hRefreshNow hRefresh,
    fun _ _ => issuePair_of_rolesFrom issuer stamp subject respond s⟩

/-- Texts that set the two lifetimes and leave the rest to its defaults. -/
def lifetimeTexts (access refresh key : String) : Option String :=
  if key = "DATABASE_URL" then some "db"
  else if key = "JWT_ACCESS_TOKEN_TTL_SECONDS" then some access
  else if key = "JWT_REFRESH_TOKEN_TTL_SECONDS" then some refresh
  else none

theorem ttls_of_load {access refresh : String} {settings : Settings}
    (h : load (lifetimeTexts access refresh) = .ok settings) :
    settings.tokens.accessTtl.toNat = numberOr 900 UInt64.size (some access) ∧
      settings.tokens.refreshTtl.toNat = numberOr 604800 UInt64.size (some refresh) := by
  have hRead := isRead_of_load h
  simp only [numberSettings, List.forall_mem_cons] at hRead
  obtain ⟨-, hAccess, hRefresh, -⟩ := hRead
  exact ⟨(numberOr_eq_iff.mpr hAccess).symm, (numberOr_eq_iff.mpr hRefresh).symm⟩

/-- An issuer with the lifetimes that are set. -/
def issuerUnder (settings : Settings) : Issuer UserId fun _ => LookupAnswer :=
  { sampleIssuer with settings := settings.tokens }

/-- The longest lifetime that still fits is kept, and one that is a second longer is not. -/
theorem longest_lifetime_kept :
    let stamp : Stamp := ⟨1700000000, 1700000000, "a", "r"⟩
    let subject : Subject := ⟨42, "alice@example.com", "alice"⟩
    ∃ settings,
      load (lifetimeTexts "9223372035154775807" "9223372035154775808") = .ok settings ∧
      (∃ token access,
        (issuerUnder settings).accessToken stamp subject ["editor"] = .ok token ∧
        AccessPayload.ofToken? token = some access ∧
        access.exp.toInt - access.iat.toInt = 9223372035154775807 ∧ access.iat < access.exp) ∧
      ∃ token refresh, (issuerUnder settings).refreshToken stamp subject.user = .ok token ∧
        RefreshPayload.ofToken? token = some refresh ∧ refresh.exp < refresh.iat := by
  intro stamp subject
  obtain ⟨settings, hLoad⟩ : ∃ settings,
      load (lifetimeTexts "9223372035154775807" "9223372035154775808") = .ok settings :=
    load_ok_iff.mpr fun r => by cases r <;> decide
  obtain ⟨hAccessTtl, hRefreshTtl⟩ := ttls_of_load hLoad
  obtain ⟨hAccess, hRefresh, -⟩ := lifetimes_kept_while_fitting (issuerUnder settings) stamp subject
    (fun _ calls => (some (.roles []), calls + 1)) 0 hLoad rfl (by decide) (by decide)
  obtain ⟨token, access, hToken, hPayload, hDated⟩ := hAccess ["editor"]
  obtain ⟨token', refresh, hToken', hPayload', hDated'⟩ := hRefresh
  have hFits : EndFits stamp.accessNow settings.tokens.accessTtl := by
    rw [EndFits, hAccessTtl]
    decide
  have hTooLong : ¬EndFits stamp.refreshNow settings.tokens.refreshTtl := by
    rw [EndFits, hRefreshTtl]
    decide
  obtain ⟨hLifetime, hAlive⟩ := hDated.kept hFits
  rw [hAccessTtl] at hLifetime
  exact ⟨settings, hLoad, ⟨token, access, hToken, hPayload, hLifetime, hAlive⟩,
    token', refresh, hToken', hPayload', (hDated'.wrapped hTooLong).2⟩

/-- A token whose lifetime is the largest one that can be set has run out a second before it is
issued. -/
theorem endless_token_expired_when_issued :
    let stamp : Stamp := ⟨1700000000, 1700000000, "a", "r"⟩
    let subject : Subject := ⟨42, "alice@example.com", "alice"⟩
    ∃ settings, load (lifetimeTexts "18446744073709551615" "604800") = .ok settings ∧
      settings.tokens.accessTtl.toNat = 18446744073709551615 ∧
      ∃ p access,
        (issuerUnder settings).issuePair stamp subject (some ["editor"]) = .done (.ok p) ∧
        p.expiresIn = settings.tokens.accessTtl ∧
        AccessPayload.ofToken? p.accessToken = some access ∧
        access.exp.toInt - access.iat.toInt = -1 ∧ ¬access.iat < access.exp := by
  intro stamp subject
  obtain ⟨settings, hLoad⟩ : ∃ settings,
      load (lifetimeTexts "18446744073709551615" "604800") = .ok settings :=
    load_ok_iff.mpr fun r => by cases r <;> decide
  have hTtl : settings.tokens.accessTtl.toNat = 18446744073709551615 := (ttls_of_load hLoad).1
  obtain ⟨token, access, hToken, hPayload, hDated⟩ :=
    accessToken_dated (issuerUnder settings) stamp subject (by decide) (accessTtl_ne_zero hLoad)
      ["editor"]
  have hTooLong : ¬EndFits stamp.accessNow settings.tokens.accessTtl := by
    rw [EndFits, hTtl]
    decide
  have hWrapped : access.exp.toInt - access.iat.toInt = settings.tokens.accessTtl.toNat - 2 ^ 64 :=
    (hDated.wrapped hTooLong).1
  have hExpired : access.exp < access.iat := (hDated.wrapped hTooLong).2
  rw [hTtl] at hWrapped
  cases hToken
  exact ⟨settings, hLoad, hTtl, _, access, rfl, rfl, hPayload, hWrapped,
    Int64.not_lt.mpr (Int64.le_of_lt hExpired)⟩

end Gatehouse.Token
