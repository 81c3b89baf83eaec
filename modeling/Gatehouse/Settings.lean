import Gatehouse.Identity.Gateway
import Gatehouse.Text.Quoted
import Gatehouse.Time.Duration

/-! The settings of the service.  They are loaded from named texts such as the environment of a
process; `Settings.load` checks them in a fixed order, and the first setting that is lacking or
unsafe is the error.  `Settings.diagnostic` is their text for logs, without any secret. -/

namespace Gatehouse

open Identity Net Text Time

/-- Why settings could not be loaded. -/
inductive SettingsError where
  | missing (key : String)
  | invalid (key : String)
  deriving DecidableEq, Repr

def SettingsError.message : SettingsError → String
  | .missing key => s!"missing configuration: {key}"
  | .invalid key => s!"invalid configuration: {key}"

/-- What the service is running for. -/
inductive Environment where
  | development
  | production
  deriving DecidableEq, Repr

/-- How tokens are signed and for how many seconds they are good. -/
structure TokenSettings where
  secret : String
  accessTtl : UInt64
  refreshTtl : UInt64
  deriving DecidableEq, Repr

structure Settings where
  port : UInt16
  databaseUrl : String
  environment : Environment
  corsOrigins : List String
  tokens : TokenSettings
  cacheUrl : Option String
  roleCacheTtl : UInt64
  requestTimeout : UInt64
  bodyLimit : UInt64
  trustedProxies : List IpAddress
  requireRole : Bool
  deriving DecidableEq, Repr

/-- The secret for development.  It is known to everybody. -/
def developmentSecret : String := "default-secret-change-in-production"

/-- Reads the name of an environment; without one it is development. -/
def Environment.parse : Option String → Except SettingsError Environment
  | none => .ok .development
  | some raw =>
    let name := asciiLower (trim raw)
    if ["development", "dev", "local"].contains name then .ok .development
    else if ["production", "prod"].contains name then .ok .production
    else .error (.invalid "APP_ENV")

namespace Settings

/-- Reads a number below a bound; what cannot be read counts as the default. -/
def numberOr (default bound : Nat) (raw : Option String) : Nat :=
  (raw.bind fun s => Decimal.naturalBelow? bound (trim s)).getD default

/-- Reads a number of 64 bits; what cannot be read counts as the default. -/
def word64Or (default : Nat) (raw : Option String) : UInt64 :=
  UInt64.ofNat (numberOr default UInt64.size raw)

/-- Reads a switch, which is on for four words and off otherwise. -/
def switch (raw : Option String) : Bool :=
  match raw with
  | some s => ["1", "true", "yes", "on"].contains (asciiLower (trim s))
  | none => false

/-- The entries of a list between commas, trimmed, without the empty ones. -/
def entries (raw : Option String) : List String :=
  ((pieces (· == ',') (raw.getD "").toList).map fun cs => String.ofList (trimChars cs)).filter
    (!·.isEmpty)

/-- The secret that tokens are signed with.  Production needs one of its own. -/
def secretFor (environment : Environment) (raw : Option String) : Except SettingsError String :=
  match environment, raw.filter (!·.isEmpty) with
  | .production, none => .error (.missing "JWT_SECRET")
  | .production, some secret =>
    if secret == developmentSecret then .error (.invalid "JWT_SECRET") else .ok secret
  | .development, secret => .ok (secret.getD developmentSecret)

/-- Reads the time that tokens of one kind are good for, which is not 0. -/
def tokenTtl (get : String → Option String) (key : String) (default : Nat) :
    Except SettingsError UInt64 :=
  let ttl := word64Or default (get key)
  if ttl == 0 then .error (.invalid key) else .ok ttl

def proxies (raw : Option String) : Except SettingsError (List IpAddress) :=
  match (entries raw).mapM IpAddress.parse? with
  | some addresses => .ok addresses
  | none => .error (.invalid "TRUSTED_PROXIES")

def load (get : String → Option String) : Except SettingsError Settings := do
  let databaseUrl ← match get "DATABASE_URL" with
    | some url => pure url
    | none => throw (.missing "DATABASE_URL")
  let environment ← Environment.parse (get "APP_ENV")
  let secret ← secretFor environment (get "JWT_SECRET")
  let accessTtl ← tokenTtl get "JWT_ACCESS_TOKEN_TTL_SECONDS" 900
  let refreshTtl ← tokenTtl get "JWT_REFRESH_TOKEN_TTL_SECONDS" 604800
  let trustedProxies ← proxies (get "TRUSTED_PROXIES")
  return {
    port := UInt16.ofNat (numberOr 3000 UInt16.size (get "PORT"))
    databaseUrl
    environment
    corsOrigins := entries (get "CORS_ALLOWED_ORIGINS")
    tokens := ⟨secret, accessTtl, refreshTtl⟩
    cacheUrl := (get "REDIS_URL").filter fun s => !(trim s).isEmpty
    roleCacheTtl := word64Or 300 (get "ROLE_CACHE_TTL_SECONDS")
    requestTimeout := word64Or 30 (get "REQUEST_TIMEOUT_SECONDS")
    bodyLimit := word64Or 1048576 (get "REQUEST_BODY_LIMIT_BYTES")
    trustedProxies
    requireRole := switch (get "GATEWAY_REQUIRE_ROLE")
  }

def address (s : Settings) : String := "0.0.0.0:" ++ toString s.port.toNat

/-- The policy for identity headers. -/
def gatewayPolicy (s : Settings) : GatewayPolicy := ⟨.ofPeers s.trustedProxies, s.requireRole⟩

/-- A list between brackets. -/
def listText (items : List String) : String := "[" ++ ", ".intercalate items ++ "]"

/-- A record by its name and its fields. -/
def recordText (name : String) (fields : List (String × String)) : String :=
  name ++ " \x7b " ++ ", ".intercalate (fields.map fun f => f.1 ++ ": " ++ f.2) ++ " \x7d"

def environmentText : Environment → String
  | .development => "Development"
  | .production => "Production"

/-- The text of the token settings without the secret. -/
def tokenText (t : TokenSettings) : String :=
  recordText "JwtConfig" [("secret", Quoted.quote "<redacted>"),
    ("access_token_ttl_seconds", toString t.accessTtl.toNat),
    ("refresh_token_ttl_seconds", toString t.refreshTtl.toNat)]

def secondsText (n : UInt64) : String := (Duration.ofSeconds n.toNat).text

/-- The text of the settings without secrets and without addresses that may hold some. -/
def diagnostic (s : Settings) : String :=
  recordText "Config" [("addr", s.address),
    ("app_env", environmentText s.environment),
    ("cors_allowed_origins", listText (s.corsOrigins.map Quoted.quote)),
    ("jwt", tokenText s.tokens),
    ("redis", toString s.cacheUrl.isSome),
    ("role_cache_ttl", secondsText s.roleCacheTtl),
    ("request_timeout", secondsText s.requestTimeout),
    ("request_body_limit_bytes", toString s.bodyLimit.toNat),
    ("trusted_proxies", listText (s.trustedProxies.map IpAddress.text)),
    ("gateway_require_role", toString s.requireRole)]

end Settings

end Gatehouse
