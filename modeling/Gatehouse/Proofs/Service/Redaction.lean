import Gatehouse.Proofs.Loading
import Gatehouse.Service.Perform

/-! Texts for diagnostics keep secrets.  What they show of settings is left when every secret is
taken out, and what is left does not depend on the texts that secrets are loaded from.  So settings
that were loaded with other secrets have the same text exactly if both have a cache or neither has,
and the texts of what signs and issues tokens with them are the same in any case. -/

namespace Gatehouse.Settings

open Identity Net Text

/-- The settings without secrets: the address of the database, the secret for tokens, and the
address of the cache. -/
def redacted (s : Settings) : Settings :=
  { s with databaseUrl := "", tokens := { s.tokens with secret := "" }, cacheUrl := none }

/-- The text of settings of which all is known but whether they have a cache. -/
def shown (s : Settings) (hasCache : Bool) : String :=
  { s with cacheUrl := if hasCache then some "" else none : Settings }.diagnostic

theorem diagnostic_eq_shown (s : Settings) :
    s.diagnostic = s.redacted.shown s.cacheUrl.isSome := by
  cases hUrl : s.cacheUrl <;> simp [diagnostic, shown, redacted, address, tokenText, hUrl]

theorem signerText_redacted (s : Settings) :
    Token.signerText s.redacted.tokens = Token.signerText s.tokens := rfl

/-- The text is shorter where there is a cache. -/
theorem length_shown (s : Settings) : (s.shown true).length + 1 = (s.shown false).length := by
  have hTrue : (toString (some "").isSome).length = 4 := by decide
  have hFalse : (toString (none : Option String).isSome).length = 5 := by decide
  simp only [shown, diagnostic, recordText, address, List.map_cons, List.map_nil,
    String.intercalate_cons_cons, String.intercalate_singleton, String.length_append,
    Bool.false_eq_true, if_false, if_true, hTrue, hFalse]
  omega

theorem shown_injective (s : Settings) : Function.Injective s.shown := by
  have hApart : s.shown true ≠ s.shown false := fun hText => by
    have hLength := length_shown s
    rw [hText] at hLength
    exact Nat.succ_ne_self _ hLength
  intro hasCache hasCache' hText
  cases hasCache <;> cases hasCache'
  · rfl
  · exact absurd hText.symm hApart
  · exact absurd hText hApart
  · rfl

theorem diagnostic_eq_iff {settings settings' : Settings}
    (h : settings'.redacted = settings.redacted) :
    settings'.diagnostic = settings.diagnostic ↔
      settings'.cacheUrl.isSome = settings.cacheUrl.isSome := by
  rw [diagnostic_eq_shown settings', diagnostic_eq_shown settings, h]
  exact (shown_injective settings.redacted).eq_iff

/-! ### Settings that were loaded with other secrets -/

/-- The keys that secrets are loaded from. -/
def secretKeys : List String := ["DATABASE_URL", "JWT_SECRET", "REDIS_URL"]

/-- Two environments agree on every key but those of secrets. -/
def SameButSecrets (get other : String → Option String) : Prop :=
  ∀ key, key ∉ secretKeys → other key = get key

/-- The text names a cache. -/
def NamesCache (raw : Option String) : Prop := ∃ url, raw = some url ∧ isBlankText url = false

variable {get other : String → Option String} {settings settings' : Settings}

theorem isSome_cacheUrl_iff (h : Loads get settings) :
    settings.cacheUrl.isSome = true ↔ NamesCache (get "REDIS_URL") := by
  simp only [h.cacheUrl, Option.isSome_iff_exists, Option.filter_eq_some_iff, NamesCache,
    Bool.not_eq_true', String.isEmpty_eq_false_iff, ne_eq, trim_eq_empty_iff, Bool.not_eq_true]

theorem tokenTtl_congr {key : String} (default : Nat) (h : other key = get key) :
    tokenTtl other key default = tokenTtl get key default := by
  rw [tokenTtl, h, tokenTtl]

theorem environment_eq (hSame : SameButSecrets get other) (h : Loads get settings)
    (h' : Loads other settings') : settings'.environment = settings.environment := by
  have hNamed := Environment.parse_ok_iff.mpr h.environment
  have hNamed' := Environment.parse_ok_iff.mpr h'.environment
  rw [hSame "APP_ENV" (by decide), hNamed] at hNamed'
  exact (Except.ok.inj hNamed').symm

theorem lifetimes_eq (hSame : SameButSecrets get other) (h : Loads get settings)
    (h' : Loads other settings') : settings'.tokens.accessTtl = settings.tokens.accessTtl ∧
      settings'.tokens.refreshTtl = settings.tokens.refreshTtl := by
  have hAccess := h'.accessTtl
  have hRefresh := h'.refreshTtl
  rw [tokenTtl_congr 900 (hSame _ (by decide)), h.accessTtl] at hAccess
  rw [tokenTtl_congr 604800 (hSame _ (by decide)), h.refreshTtl] at hRefresh
  exact ⟨(Except.ok.inj hAccess).symm, (Except.ok.inj hRefresh).symm⟩

theorem trustedProxies_eq (hSame : SameButSecrets get other) (h : Loads get settings)
    (h' : Loads other settings') : settings'.trustedProxies = settings.trustedProxies := by
  have hRead := h'.trustedProxies
  rw [hSame _ (by decide), h.trustedProxies] at hRead
  exact (Except.ok.inj hRead).symm

/-- Without secrets the settings do not depend on the texts that secrets are loaded from. -/
theorem redacted_eq (hSame : SameButSecrets get other) (h : Loads get settings)
    (h' : Loads other settings') : settings'.redacted = settings.redacted := by
  obtain ⟨hAccess, hRefresh⟩ := lifetimes_eq hSame h h'
  have hPort : settings'.port = settings.port := by
    rw [h'.port, h.port, hSame _ (by decide)]
  have hOrigins : settings'.corsOrigins = settings.corsOrigins := by
    rw [h'.corsOrigins, h.corsOrigins, hSame _ (by decide)]
  have hRoleCacheTtl : settings'.roleCacheTtl = settings.roleCacheTtl := by
    rw [h'.roleCacheTtl, h.roleCacheTtl, hSame _ (by decide)]
  have hTimeout : settings'.requestTimeout = settings.requestTimeout := by
    rw [h'.requestTimeout, h.requestTimeout, hSame _ (by decide)]
  have hBodyLimit : settings'.bodyLimit = settings.bodyLimit := by
    rw [h'.bodyLimit, h.bodyLimit, hSame _ (by decide)]
  have hRequireRole : settings'.requireRole = settings.requireRole := by
    rw [h'.requireRole, h.requireRole, hSame _ (by decide)]
  simp only [redacted, environment_eq hSame h h', hAccess, hRefresh, trustedProxies_eq hSame h h',
    hPort, hOrigins, hRoleCacheTtl, hTimeout, hBodyLimit, hRequireRole]

end Gatehouse.Settings

namespace Gatehouse.Service

open Settings Text

theorem issuerText_redacted (settings : Settings) (opened opened' : Bool)
    (stamp stamp' : Token.Stamp) :
    (Facilities.issuer ⟨settings.redacted, opened, stamp⟩).text =
      (Facilities.issuer ⟨settings, opened', stamp'⟩).text := rfl

/-- Of the secrets that settings were loaded from, their text shows whether a cache is named and
nothing else.  The texts of what signs tokens and of what issues them show nothing at all, whatever
else they work with. -/
theorem diagnostics_hide_secrets {get other : String → Option String}
    {settings settings' : Settings} (hSame : SameButSecrets get other)
    (hLoad : load get = .ok settings) (hLoad' : load other = .ok settings') :
    (settings'.diagnostic = settings.diagnostic ↔
      (NamesCache (other "REDIS_URL") ↔ NamesCache (get "REDIS_URL"))) ∧
    Token.signerText settings'.tokens = Token.signerText settings.tokens ∧
    ∀ (opened opened' : Bool) (stamp stamp' : Token.Stamp),
      (Facilities.issuer ⟨settings', opened', stamp'⟩).text =
        (Facilities.issuer ⟨settings, opened, stamp⟩).text := by
  have hLoads := loads_of_load hLoad
  have hLoads' := loads_of_load hLoad'
  have hRedacted := redacted_eq hSame hLoads hLoads'
  refine ⟨?_, ?_, fun opened opened' stamp stamp' => ?_⟩
  · rw [diagnostic_eq_iff hRedacted, Bool.eq_iff_iff, isSome_cacheUrl_iff hLoads',
      isSome_cacheUrl_iff hLoads]
  · rw [← signerText_redacted settings', hRedacted, signerText_redacted]
  · rw [← issuerText_redacted settings' opened opened' stamp stamp', hRedacted,
      issuerText_redacted settings opened opened stamp stamp]

/-- Texts for production that name a database, a secret and a cache. -/
def deployment (database secret cache key : String) : Option String :=
  if key = "APP_ENV" then some "production"
  else if key = "DATABASE_URL" then some database
  else if key = "JWT_SECRET" then some secret
  else if key = "REDIS_URL" then some cache
  else none

theorem sameButSecrets_deployment (database database' secret secret' cache cache' : String) :
    SameButSecrets (deployment database secret cache) (deployment database' secret' cache') := by
  intro key hPublic
  simp only [secretKeys, List.mem_cons, List.not_mem_nil, or_false, not_or] at hPublic
  obtain ⟨hDatabase, hSecret, hUrl⟩ := hPublic
  simp only [deployment, if_neg hDatabase, if_neg hSecret, if_neg hUrl]

/-- Secrets that look like what is shown anyway: a lifetime, the text in place of a secret, and the
text that says that there is a cache. -/
theorem lookalike_secrets_hidden :
    let get := deployment "postgres://u:pw@db" "900" "redis://:pw@cache"
    let other := deployment "Production" "<redacted>" "true"
    SameButSecrets get other ∧ ∃ settings settings',
      load get = .ok settings ∧ load other = .ok settings' ∧
      settings.tokens.secret = "900" ∧ settings'.tokens.secret = "<redacted>" ∧
      settings'.diagnostic = settings.diagnostic ∧
      Token.signerText settings'.tokens = Token.signerText settings.tokens ∧
      (Facilities.issuer ⟨settings', false, ⟨0, 1, "a", "r"⟩⟩).text =
        (Facilities.issuer ⟨settings, true, ⟨1700000000, 1700000001, "b", "s"⟩⟩).text := by
  intro get other
  have hSame : SameButSecrets get other := sameButSecrets_deployment _ _ _ _ _ _
  have hCache : NamesCache (get "REDIS_URL") := ⟨"redis://:pw@cache", rfl, by decide⟩
  have hCache' : NamesCache (other "REDIS_URL") := ⟨"true", rfl, by decide⟩
  refine ⟨hSame, _, _, rfl, rfl, rfl, rfl, ?_⟩
  obtain ⟨hDiagnostic, hSigner, hIssuer⟩ := diagnostics_hide_secrets hSame rfl rfl
  exact ⟨hDiagnostic.mpr (iff_of_true hCache' hCache), hSigner, hIssuer true false _ _⟩

end Gatehouse.Service
