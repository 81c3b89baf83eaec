import Gatehouse.Proofs.TrustedProxies

/-! Which texts settings are loaded from.  There are seven requirements, checked in one order, and
the first one that is not met is the error.  No other text stops the settings from being loaded:
where a number cannot be read, its default is taken. -/

namespace Gatehouse.Settings

open Net Text

/-- What has to be given before settings are loaded. -/
inductive Requirement where
  | databaseUrl
  | environment
  | secretGiven
  | secretOfItsOwn
  | accessTtl
  | refreshTtl
  | trustedProxies
  deriving DecidableEq, Repr

namespace Requirement

/-- The requirements in the order in which they are checked. -/
def inOrder : List Requirement :=
  [.databaseUrl, .environment, .secretGiven, .secretOfItsOwn, .accessTtl, .refreshTtl,
    .trustedProxies]

def earlier (r : Requirement) : List Requirement := inOrder.takeWhile (· != r)

theorem mem_inOrder (r : Requirement) : r ∈ inOrder := by cases r <;> decide

/-- The error that says that the requirement is not met. -/
def error : Requirement → SettingsError
  | .databaseUrl => .missing "DATABASE_URL"
  | .environment => .invalid "APP_ENV"
  | .secretGiven => .missing "JWT_SECRET"
  | .secretOfItsOwn => .invalid "JWT_SECRET"
  | .accessTtl => .invalid "JWT_ACCESS_TOKEN_TTL_SECONDS"
  | .refreshTtl => .invalid "JWT_REFRESH_TOKEN_TTL_SECONDS"
  | .trustedProxies => .invalid "TRUSTED_PROXIES"

/-- The requirement is met by what the keys give. -/
def Holds (get : String → Option String) : Requirement → Prop
  | .databaseUrl => get "DATABASE_URL" ≠ none
  | .environment =>
    Environment.development.IsNamedBy (get "APP_ENV") ∨
      Environment.production.IsNamedBy (get "APP_ENV")
  | .secretGiven =>
    Environment.production.IsNamedBy (get "APP_ENV") → GivesSecret (get "JWT_SECRET")
  | .secretOfItsOwn =>
    Environment.production.IsNamedBy (get "APP_ENV") → get "JWT_SECRET" ≠ some developmentSecret
  | .accessTtl => ¬ReadsNumber 900 UInt64.size (get "JWT_ACCESS_TOKEN_TTL_SECONDS") 0
  | .refreshTtl => ¬ReadsNumber 604800 UInt64.size (get "JWT_REFRESH_TOKEN_TTL_SECONDS") 0
  | .trustedProxies =>
    ∀ item ∈ listed (get "TRUSTED_PROXIES"), isBlankText item = false →
      IpAddress.parse? (trim item) ≠ none

instance (get : String → Option String) : (r : Requirement) → Decidable (r.Holds get)
  | .databaseUrl | .accessTtl | .refreshTtl => instDecidableNot
  | .environment => instDecidableOr
  | .secretGiven | .secretOfItsOwn => instDecidableForall
  | .trustedProxies => List.decidableBAll _ _

/-- The requirement is not met, and all that are checked before it are. -/
def FailsFirst (get : String → Option String) (r : Requirement) : Prop :=
  ¬r.Holds get ∧ ∀ before ∈ r.earlier, before.Holds get

/-- What the requirement has against the texts. -/
def failure? (get : String → Option String) (r : Requirement) : Option SettingsError :=
  if r.Holds get then none else some r.error

theorem failure?_eq_none_iff {get : String → Option String} {r : Requirement} :
    r.failure? get = none ↔ r.Holds get := by
  simp [failure?]

theorem failure?_eq_some_iff {get : String → Option String} {r : Requirement} {e : SettingsError} :
    r.failure? get = some e ↔ ¬r.Holds get ∧ r.error = e := by
  simp [failure?]

end Requirement

open Requirement

variable (get : String → Option String)

theorem errorOf_environment :
    errorOf (Environment.parse (get "APP_ENV")) = failure? get .environment := by
  ext e
  rw [errorOf_eq_some_iff, Environment.parse_error_iff, failure?_eq_some_iff]
  rfl

theorem secretError?_eq :
    secretError? get = (failure? get .secretGiven).or (failure? get .secretOfItsOwn) := by
  -- The known secret is a given one, so the two requirements never fail together.
  have hGiven : get "JWT_SECRET" = some developmentSecret → GivesSecret (get "JWT_SECRET") :=
    fun h => ⟨_, h, by decide⟩
  ext e
  simp only [secretError?_eq_some_iff, Option.or_eq_some_iff, failure?_eq_some_iff,
    failure?_eq_none_iff, Holds, Requirement.error, @eq_comm _ e]
  tauto

theorem errorOf_tokenTtl {r : Requirement} {key : String} {default : Nat}
    (hDefault : default < UInt64.size)
    (hHolds : r.Holds get ↔ ¬ReadsNumber default UInt64.size (get key) 0)
    (hError : r.error = .invalid key) : errorOf (tokenTtl get key default) = failure? get r := by
  ext e
  rw [errorOf_eq_some_iff, tokenTtl_error_iff hDefault, failure?_eq_some_iff, hHolds, hError,
    Classical.not_not, eq_comm]

theorem errorOf_proxies :
    errorOf (proxies (get "TRUSTED_PROXIES")) = failure? get .trustedProxies := by
  ext e
  rw [errorOf_eq_some_iff, proxies_error_iff, failure?_eq_some_iff, @eq_comm _ e]
  simp [Holds, Requirement.error]

theorem errorOf_load_eq : errorOf (load get) = inOrder.findSome? (failure? get) := by
  have hUrl : (if get "DATABASE_URL" = none then some (.missing "DATABASE_URL") else none) =
      failure? get .databaseUrl := by
    simp [failure?, Holds, Requirement.error]
  rw [errorOf_load, hUrl, errorOf_environment, secretError?_eq,
    errorOf_tokenTtl get (r := .accessTtl) (by decide) Iff.rfl rfl,
    errorOf_tokenTtl get (r := .refreshTtl) (by decide) Iff.rfl rfl, errorOf_proxies]
  simp only [inOrder, findSome?_cons_eq_or, List.findSome?_nil, Option.or_none, Option.or_assoc]

variable {get}

theorem load_ok_iff : (∃ settings, load get = .ok settings) ↔ ∀ r : Requirement, r.Holds get := by
  rw [← errorOf_eq_none_iff, errorOf_load_eq, List.findSome?_eq_none_iff]
  simp only [failure?_eq_none_iff]
  exact ⟨fun h r => h r (mem_inOrder r), fun h r _ => h r⟩

theorem load_error_iff {e : SettingsError} :
    load get = .error e ↔ ∃ r, FailsFirst get r ∧ r.error = e := by
  rw [← errorOf_eq_some_iff, errorOf_load_eq, findSome?_eq_some_iff_first]
  simp only [failure?_eq_some_iff, failure?_eq_none_iff, FailsFirst, earlier, mem_inOrder,
    true_and]
  exact exists_congr fun r => ⟨fun ⟨⟨hNot, hError⟩, hBefore⟩ => ⟨⟨hNot, hBefore⟩, hError⟩,
    fun ⟨⟨hNot, hBefore⟩, hError⟩ => ⟨⟨hNot, hError⟩, hBefore⟩⟩

/-- The keys that can stop settings from being loaded. -/
def requiredKeys : List String :=
  ["DATABASE_URL", "APP_ENV", "JWT_SECRET", "JWT_ACCESS_TOKEN_TTL_SECONDS",
    "JWT_REFRESH_TOKEN_TTL_SECONDS", "TRUSTED_PROXIES"]

theorem errorOf_load_congr {get' : String → Option String}
    (h : ∀ key ∈ requiredKeys, get' key = get key) : errorOf (load get') = errorOf (load get) := by
  simp only [requiredKeys, List.forall_mem_cons, List.not_mem_nil, false_imp_iff, implies_true,
    and_true] at h
  obtain ⟨hUrl, hEnvironment, hSecret, hAccess, hRefresh, hProxies⟩ := h
  simp only [errorOf_load, secretError?, tokenTtl, hUrl, hEnvironment, hSecret, hAccess, hRefresh,
    hProxies]

/-- A setting that is a number: its key, its default, the bound of its type, and where it is. -/
structure NumberSetting where
  key : String
  default : Nat
  bound : Nat
  value : Settings → Nat

def numberSettings : List NumberSetting :=
  [⟨"PORT", 3000, UInt16.size, fun s => s.port.toNat⟩,
    ⟨"JWT_ACCESS_TOKEN_TTL_SECONDS", 900, UInt64.size, fun s => s.tokens.accessTtl.toNat⟩,
    ⟨"JWT_REFRESH_TOKEN_TTL_SECONDS", 604800, UInt64.size, fun s => s.tokens.refreshTtl.toNat⟩,
    ⟨"ROLE_CACHE_TTL_SECONDS", 300, UInt64.size, fun s => s.roleCacheTtl.toNat⟩,
    ⟨"REQUEST_TIMEOUT_SECONDS", 30, UInt64.size, fun s => s.requestTimeout.toNat⟩,
    ⟨"REQUEST_BODY_LIMIT_BYTES", 1048576, UInt64.size, fun s => s.bodyLimit.toNat⟩]

/-- The setting is the number that its key gives, or its default. -/
def NumberSetting.IsRead (number : NumberSetting) (get : String → Option String)
    (settings : Settings) : Prop :=
  ReadsNumber number.default number.bound (get number.key) (number.value settings)

theorem readsNumber_word64Or {default : Nat} (h : default < UInt64.size) (raw : Option String) :
    ReadsNumber default UInt64.size raw (word64Or default raw).toNat :=
  numberOr_eq_iff.mp (word64Or_toNat h raw).symm

theorem isRead_of_load {settings : Settings} (h : load get = .ok settings) :
    ∀ number ∈ numberSettings, number.IsRead get settings := by
  have hLoads := loads_of_load h
  simp only [numberSettings, List.forall_mem_cons, NumberSetting.IsRead, List.not_mem_nil,
    false_imp_iff, implies_true, and_true]
  refine ⟨?_, ?_, ?_, ?_, ?_, ?_⟩
  · rw [hLoads.port]
    exact numberOr_eq_iff.mp (UInt16.toNat_ofNat_of_lt' (numberOr_lt (by decide) _)).symm
  · rw [(tokenTtl_ok_iff.mp hLoads.accessTtl).1]
    exact readsNumber_word64Or (by decide) _
  · rw [(tokenTtl_ok_iff.mp hLoads.refreshTtl).1]
    exact readsNumber_word64Or (by decide) _
  · rw [hLoads.roleCacheTtl]
    exact readsNumber_word64Or (by decide) _
  · rw [hLoads.requestTimeout]
    exact readsNumber_word64Or (by decide) _
  · rw [hLoads.bodyLimit]
    exact readsNumber_word64Or (by decide) _

def environmentNames : List String := ["development", "dev", "local", "production", "prod"]

/-- Settings are loaded exactly if every requirement is met, and the first one that is not is the
error; no key but those of the requirements has a say.  Every number is what its key gives or the
default, and the known secret is for development only. -/
theorem load_decides (get : String → Option String) :
    ((∃ settings, load get = .ok settings) ↔ ∀ r : Requirement, r.Holds get) ∧
    (∀ e, load get = .error e ↔ ∃ r, FailsFirst get r ∧ r.error = e) ∧
    (∀ get', (∀ key ∈ requiredKeys, get' key = get key) →
      errorOf (load get') = errorOf (load get)) ∧
    (∀ raw, get "APP_ENV" = some raw → asciiLower (trim raw) ∉ environmentNames →
      ∃ e, load get = .error e) ∧
    ∀ settings, load get = .ok settings →
      settings.environment.IsNamedBy (get "APP_ENV") ∧
      (settings.tokens.secret = developmentSecret → settings.environment = .development) ∧
      ∀ number ∈ numberSettings, number.IsRead get settings := by
  refine ⟨load_ok_iff, fun e => load_error_iff, fun get' h => errorOf_load_congr h, ?_, ?_⟩
  · intro raw hRaw hUnknown
    cases hLoad : load get with
    | error e => exact ⟨e, rfl⟩
    | ok settings =>
      have hNamed := (loads_of_load hLoad).environment
      rw [hRaw] at hNamed
      generalize settings.environment = environment at hNamed
      cases hNamed with
      | development h => exact absurd (List.mem_append_left ["production", "prod"] h) hUnknown
      | production h =>
        exact absurd (List.mem_append_right ["development", "dev", "local"] h) hUnknown
  · intro settings hLoad
    have hLoads := loads_of_load hLoad
    refine ⟨hLoads.environment, fun hSecret => ?_, isRead_of_load hLoad⟩
    cases hEnvironment : settings.environment with
    | development => rfl
    | production =>
      have hOwn := hLoads.secret
      rw [hEnvironment] at hOwn
      exact absurd hSecret (ne_developmentSecret hOwn)

/-- Production with a secret of its own, and with a port that does not exist. -/
def sealedProduction (key : String) : Option String :=
  if key = "DATABASE_URL" then some "db"
  else if key = "APP_ENV" then some " Prod\t"
  else if key = "JWT_SECRET" then some "s3cr3t"
  else if key = "JWT_ACCESS_TOKEN_TTL_SECONDS" then some " +060 "
  else if key = "PORT" then some "65536"
  else none

/-- Production with the secret that everybody knows, and with tokens that are good for no time. -/
def openProduction (key : String) : Option String :=
  if key = "JWT_SECRET" then some developmentSecret
  else if key = "JWT_ACCESS_TOKEN_TTL_SECONDS" then some "0"
  else sealedProduction key

theorem sealed_production_loaded :
    (∃ settings, load sealedProduction = .ok settings ∧
      settings.environment.IsNamedBy (some " Prod\t") ∧
      settings.tokens.accessTtl.toNat = 60 ∧ settings.port.toNat = 3000) ∧
    load openProduction = .error (.invalid "JWT_SECRET") := by
  obtain ⟨hLoads, -, -, -, hFacts⟩ := load_decides sealedProduction
  obtain ⟨settings, hLoad⟩ := hLoads.mpr fun r => by cases r <;> decide
  obtain ⟨hNamed, -, hNumbers⟩ := hFacts settings hLoad
  have hPort := hNumbers _ List.mem_cons_self
  have hAccess := hNumbers _ (List.mem_cons_of_mem _ List.mem_cons_self)
  refine ⟨⟨settings, hLoad, hNamed, (numberOr_eq_iff.mpr hAccess).symm,
    (numberOr_eq_iff.mpr hPort).symm⟩, ?_⟩
  exact ((load_decides openProduction).2.1 _).mpr ⟨.secretOfItsOwn, ⟨by decide, by decide⟩, rfl⟩

end Gatehouse.Settings
