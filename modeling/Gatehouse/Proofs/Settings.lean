import Gatehouse.Proofs.Except
import Gatehouse.Proofs.Text.Decimal
import Gatehouse.Settings

/-! What is read from the texts that settings are loaded from, key by key.  `Loads` says of every
setting which text it comes from, and `load_error_iff` which text was the first to be refused. -/

namespace Gatehouse

open Identity Net Text

/-- The text is a name of the environment.  Without one it is development. -/
inductive Environment.IsNamedBy : Environment → Option String → Prop
  | unset : IsNamedBy .development none
  | development {raw : String} (h : asciiLower (trim raw) ∈ ["development", "dev", "local"]) :
      IsNamedBy .development (some raw)
  | production {raw : String} (h : asciiLower (trim raw) ∈ ["production", "prod"]) :
      IsNamedBy .production (some raw)

theorem Environment.parse_ok_iff {raw : Option String} {environment : Environment} :
    parse raw = .ok environment ↔ environment.IsNamedBy raw := by
  cases raw with
  | none =>
    refine ⟨fun h => ?_, fun h => ?_⟩
    · cases h
      exact .unset
    · cases h
      rfl
  | some raw =>
    simp only [parse, List.contains_iff_mem]
    constructor
    · intro h
      split at h
      · rename_i hName
        cases h
        exact .development hName
      · split at h
        · rename_i hName
          cases h
          exact .production hName
        · cases h
    · intro h
      cases h with
      | development hName => rw [if_pos hName]
      | production hName =>
        -- No name stands for both.
        have hApart : ∀ name ∈ ["production", "prod"], name ∉ ["development", "dev", "local"] := by
          decide
        rw [if_neg (hApart _ hName), if_pos hName]

instance (environment : Environment) (raw : Option String) :
    Decidable (environment.IsNamedBy raw) :=
  decidable_of_iff ((Environment.parse raw).toOption = some environment) <| by
    rw [← Environment.parse_ok_iff]
    cases Environment.parse raw <;> simp [Except.toOption]

theorem Environment.parse_error_iff {raw : Option String} {e : SettingsError} :
    parse raw = .error e ↔
      ¬(IsNamedBy .development raw ∨ IsNamedBy .production raw) ∧ .invalid "APP_ENV" = e := by
  simp only [← parse_ok_iff]
  cases h : parse raw with
  | ok environment => cases environment <;> simp
  | error e' =>
    have hOnly : e' = .invalid "APP_ENV" := by
      rw [parse.eq_def] at h
      split at h
      · cases h
      · simp only at h
        split at h
        · cases h
        · split at h
          · cases h
          · cases h
            rfl
    simp [hOnly]

namespace Settings

/-! ### Numbers -/

/-- The text that is given for a number, less the blanks around it, is a number below the bound. -/
def GivesNumber (bound : Nat) (raw : Option String) (n : Nat) : Prop :=
  ∃ text, raw = some text ∧ Decimal.Writes (trim text) n ∧ n < bound

/-- The number is the one that is given, or the default if none is. -/
def ReadsNumber (default bound : Nat) (raw : Option String) (n : Nat) : Prop :=
  GivesNumber bound raw n ∨ (∀ m, ¬GivesNumber bound raw m) ∧ n = default

theorem givesNumber_iff {bound : Nat} {raw : Option String} {n : Nat} :
    GivesNumber bound raw n ↔
      (raw.bind fun text => Decimal.naturalBelow? bound (trim text)) = some n := by
  simp only [GivesNumber, Option.bind_eq_some_iff, Decimal.naturalBelow?_eq_some_iff]

theorem numberOr_eq_iff {default bound : Nat} {raw : Option String} {n : Nat} :
    numberOr default bound raw = n ↔ ReadsNumber default bound raw n := by
  simp only [ReadsNumber, givesNumber_iff, numberOr]
  cases raw.bind fun text => Decimal.naturalBelow? bound (trim text) with
  | none => simp [eq_comm]
  | some m => simp

instance (default bound : Nat) (raw : Option String) (n : Nat) :
    Decidable (ReadsNumber default bound raw n) := decidable_of_iff _ numberOr_eq_iff

theorem numberOr_lt {default bound : Nat} (h : default < bound) (raw : Option String) :
    numberOr default bound raw < bound := by
  have hRead := numberOr_eq_iff.mp (Eq.refl (numberOr default bound raw))
  rcases hRead with ⟨_, -, -, hBelow⟩ | ⟨-, hNumber⟩
  · exact hBelow
  · rwa [hNumber]

theorem word64Or_toNat {default : Nat} (h : default < UInt64.size) (raw : Option String) :
    (word64Or default raw).toNat = numberOr default UInt64.size raw :=
  UInt64.toNat_ofNat_of_lt' (numberOr_lt h raw)

/-! ### Token settings -/

variable {get : String → Option String} {key : String} {default : Nat}

theorem tokenTtl_ok_iff {ttl : UInt64} :
    tokenTtl get key default = .ok ttl ↔ ttl = word64Or default (get key) ∧ ttl ≠ 0 := by
  simp only [tokenTtl, beq_iff_eq]
  split
  · rename_i hZero
    simp [hZero]
  · rename_i hNonzero
    simp only [Except.ok.injEq]
    exact ⟨fun h => ⟨h.symm, h ▸ hNonzero⟩, fun h => h.1.symm⟩

theorem tokenTtl_error_iff {e : SettingsError} (hDefault : default < UInt64.size) :
    tokenTtl get key default = .error e ↔
      ReadsNumber default UInt64.size (get key) 0 ∧ e = .invalid key := by
  rw [← numberOr_eq_iff, ← word64Or_toNat hDefault, ← UInt64.toNat_zero, UInt64.toNat_inj]
  simp only [tokenTtl, beq_iff_eq]
  split <;> simp_all [eq_comm]

/-- Some secret is given. -/
def GivesSecret (raw : Option String) : Prop := ∃ secret, raw = some secret ∧ secret ≠ ""

theorem filter_nonempty_eq_some_iff {raw : Option String} {secret : String} :
    raw.filter (!·.isEmpty) = some secret ↔ raw = some secret ∧ secret ≠ "" := by
  rw [Option.filter_eq_some_iff]
  simp

theorem filter_nonempty_eq_none_iff {raw : Option String} :
    raw.filter (!·.isEmpty) = none ↔ ¬GivesSecret raw := by
  simp only [GivesSecret, ← filter_nonempty_eq_some_iff, ← Option.eq_none_iff_forall_ne_some,
    not_exists, ne_eq]

instance (raw : Option String) : Decidable (GivesSecret raw) :=
  decidable_of_iff (raw.filter (!·.isEmpty) ≠ none) <| by
    rw [ne_eq, filter_nonempty_eq_none_iff, Classical.not_not]

/-- The secret for development signs nothing in production. -/
theorem ne_developmentSecret {raw : Option String} {secret : String}
    (h : secretFor .production raw = .ok secret) : secret ≠ developmentSecret := by
  rw [secretFor.eq_def] at h
  cases hRaw : raw.filter (!·.isEmpty) with
  | none =>
    rw [hRaw] at h
    cases h
  | some text =>
    simp only [hRaw, beq_iff_eq] at h
    split at h
    · cases h
    · rename_i hText
      cases h
      exact hText

theorem secretFor_error_iff {environment : Environment} {raw : Option String} {e : SettingsError} :
    secretFor environment raw = .error e ↔
      environment = .production ∧
        (¬GivesSecret raw ∧ e = .missing "JWT_SECRET" ∨
          raw = some developmentSecret ∧ e = .invalid "JWT_SECRET") := by
  have hNonempty : developmentSecret ≠ "" := by decide
  have hDefault : raw = some developmentSecret ↔
      raw.filter (!·.isEmpty) = some developmentSecret := by
    rw [filter_nonempty_eq_some_iff, and_iff_left hNonempty]
  rw [← filter_nonempty_eq_none_iff, hDefault, secretFor.eq_def]
  cases raw.filter (!·.isEmpty) with
  | none => cases environment <;> simp [eq_comm]
  | some text =>
    cases environment with
    | development => simp
    | production =>
      by_cases hText : text = developmentSecret
      · simp [hText, eq_comm]
      · simp [hText]

/-! ### Loading -/

/-- The settings are what the texts come to, each from its own key. -/
structure Loads (get : String → Option String) (settings : Settings) : Prop where
  databaseUrl : get "DATABASE_URL" = some settings.databaseUrl
  environment : settings.environment.IsNamedBy (get "APP_ENV")
  secret : secretFor settings.environment (get "JWT_SECRET") = .ok settings.tokens.secret
  accessTtl : tokenTtl get "JWT_ACCESS_TOKEN_TTL_SECONDS" 900 = .ok settings.tokens.accessTtl
  refreshTtl :
    tokenTtl get "JWT_REFRESH_TOKEN_TTL_SECONDS" 604800 = .ok settings.tokens.refreshTtl
  trustedProxies : proxies (get "TRUSTED_PROXIES") = .ok settings.trustedProxies
  port : settings.port = UInt16.ofNat (numberOr 3000 UInt16.size (get "PORT"))
  corsOrigins : settings.corsOrigins = entries (get "CORS_ALLOWED_ORIGINS")
  cacheUrl : settings.cacheUrl = (get "REDIS_URL").filter fun s => !(trim s).isEmpty
  roleCacheTtl : settings.roleCacheTtl = word64Or 300 (get "ROLE_CACHE_TTL_SECONDS")
  requestTimeout : settings.requestTimeout = word64Or 30 (get "REQUEST_TIMEOUT_SECONDS")
  bodyLimit : settings.bodyLimit = word64Or 1048576 (get "REQUEST_BODY_LIMIT_BYTES")
  requireRole : settings.requireRole = switch (get "GATEWAY_REQUIRE_ROLE")

theorem loads_of_load {settings : Settings} (h : load get = .ok settings) : Loads get settings := by
  rw [load] at h
  split at h
  · rename_i url hUrl
    simp only [Except.bind_ok_iff, Except.pure_ok_iff] at h
    obtain ⟨_, rfl, environment, hEnvironment, secret, hSecret, accessTtl, hAccess, refreshTtl,
      hRefresh, addresses, hProxies, rfl⟩ := h
    exact ⟨hUrl, Environment.parse_ok_iff.mp hEnvironment, hSecret, hAccess, hRefresh, hProxies,
      rfl, rfl, rfl, rfl, rfl, rfl, rfl⟩
  · cases h

/-- What is wrong with the secret for tokens, in the environment that is named. -/
def secretError? (get : String → Option String) : Option SettingsError :=
  match Environment.parse (get "APP_ENV") with
  | .ok environment => errorOf (secretFor environment (get "JWT_SECRET"))
  | .error _ => none

theorem secretError?_eq_some_iff {e : SettingsError} :
    secretError? get = some e ↔
      Environment.production.IsNamedBy (get "APP_ENV") ∧
        (¬GivesSecret (get "JWT_SECRET") ∧ e = .missing "JWT_SECRET" ∨
          get "JWT_SECRET" = some developmentSecret ∧ e = .invalid "JWT_SECRET") := by
  rw [secretError?, ← Environment.parse_ok_iff]
  cases Environment.parse (get "APP_ENV") with
  | ok environment => simp [errorOf_eq_some_iff, secretFor_error_iff]
  | error e' => simp

/-- The first text that is refused is the error. -/
theorem errorOf_load (get : String → Option String) :
    errorOf (load get) =
      (if get "DATABASE_URL" = none then some (.missing "DATABASE_URL") else none).or
        ((errorOf (Environment.parse (get "APP_ENV"))).or
          ((secretError? get).or
            ((errorOf (tokenTtl get "JWT_ACCESS_TOKEN_TTL_SECONDS" 900)).or
              ((errorOf (tokenTtl get "JWT_REFRESH_TOKEN_TTL_SECONDS" 604800)).or
                (errorOf (proxies (get "TRUSTED_PROXIES"))))))) := by
  rw [load]
  cases get "DATABASE_URL" with
  | none => rfl
  | some url =>
    refine errorOf_bind rfl fun _ _ => errorOf_bind rfl fun environment hEnvironment => ?_
    refine errorOf_bind (by rw [secretError?, hEnvironment]) fun secret _ => ?_
    refine errorOf_bind rfl fun accessTtl _ => errorOf_bind rfl fun refreshTtl _ => ?_
    exact errorOf_bind_ok _ _

end Settings

end Gatehouse
