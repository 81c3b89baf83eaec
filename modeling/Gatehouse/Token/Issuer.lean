import Gatehouse.Dialogue
import Gatehouse.Roles.Lookup
import Gatehouse.Settings
import Gatehouse.Token.Claims
import Gatehouse.Token.Signed

/-! Issuing tokens.  An access token carries the roles that the request gives, or else those that
the lookup answers within its time limit, or none where there is no lookup.  A pair is issued as a
whole or not at all. -/

namespace Gatehouse.Token

open Identity Roles Time

variable {Question : Type} {Answer : Question → Type}

/-- Whom an access token is about. -/
structure Subject where
  user : UserId
  email : String
  name : String
  deriving DecidableEq, Repr

/-- What the clock says when each token of an issuance is made, and the identifiers of the tokens.
The clock is read once for each token. -/
structure Stamp where
  accessNow : Seconds
  refreshNow : Seconds
  accessId : String
  refreshId : String
  deriving DecidableEq, Repr

/-- What a token issuer works with: the secret and lifetimes, the lookup of roles if there is one,
and how long to wait for it. -/
structure Issuer (Question : Type) (Answer : Question → Type) where
  settings : TokenSettings
  lookup : Option (UserId → Dialogue Question Answer LookupAnswer)
  lookupTimeout : Duration

structure TokenPair where
  accessToken : String
  refreshToken : String
  expiresIn : UInt64
  deriving DecidableEq, Repr

/-- The kind of authentication that the tokens are for. -/
def tokenType : String := "Bearer"

/-- A pair as the service writes it. -/
def TokenPair.toJson (p : TokenPair) : Json :=
  .record [("access_token", .text p.accessToken), ("refresh_token", .text p.refreshToken),
    ("token_type", .text tokenType), ("expires_in", .int p.expiresIn.toNat)]

/-- The end of a lifetime that starts now, in 64 bits of two's complement. -/
def expiry (now : Seconds) (ttl : UInt64) : Seconds := now + ttl.toInt64

namespace Issuer

/-- The roles for a token whose request gives none. -/
def resolveRoles (issuer : Issuer Question Answer) (user : UserId) :
    Dialogue Question Answer (Except ApiError (List String)) :=
  match issuer.lookup with
  | none => return .ok []
  | some lookup => do
    match (← lookup user).within issuer.lookupTimeout with
    | .ok names => return .ok names
    | .error _ => return .error .roleLookupFailed

/-- The access token with given roles. -/
def accessToken (issuer : Issuer Question Answer) (stamp : Stamp) (subject : Subject)
    (roles : List String) : Except ApiError String :=
  let expiresAt := expiry stamp.accessNow issuer.settings.accessTtl
  let validity := ⟨stamp.accessNow, expiresAt, stamp.accessId⟩
  let claims : AccessClaims := ⟨subject.user, subject.email, subject.name, roles, validity⟩
  sign issuer.settings.secret claims.toJson

def refreshToken (issuer : Issuer Question Answer) (stamp : Stamp) (user : UserId) :
    Except ApiError String :=
  let expiresAt := expiry stamp.refreshNow issuer.settings.refreshTtl
  let claims : RefreshClaims := ⟨user, ⟨stamp.refreshNow, expiresAt, stamp.refreshId⟩⟩
  sign issuer.settings.secret claims.toJson

def issueAccess (issuer : Issuer Question Answer) (stamp : Stamp) (subject : Subject)
    (roles : Option (List String)) : Dialogue Question Answer (Except ApiError String) := do
  let roles ← match roles with
    | some roles => pure (.ok roles)
    | none => issuer.resolveRoles subject.user
  return roles.bind (issuer.accessToken stamp subject)

def issuePair (issuer : Issuer Question Answer) (stamp : Stamp) (subject : Subject)
    (roles : Option (List String)) : Dialogue Question Answer (Except ApiError TokenPair) := do
  let access ← issuer.issueAccess stamp subject roles
  return access.bind fun accessToken =>
    (issuer.refreshToken stamp subject.user).map fun refreshToken =>
      ⟨accessToken, refreshToken, issuer.settings.accessTtl⟩

end Issuer

/-- The text of a signer for diagnostics, without its secret. -/
def signerText (t : TokenSettings) : String :=
  Settings.recordText "JwtIssuer" [("access_ttl_seconds", toString t.accessTtl.toNat),
    ("refresh_ttl_seconds", toString t.refreshTtl.toNat)]

/-- The text of an issuer for diagnostics. -/
def Issuer.text (issuer : Issuer Question Answer) : String :=
  Settings.recordText "TokenIssuer" [("jwt", signerText issuer.settings),
    ("role_lookup", toString issuer.lookup.isSome),
    ("lookup_timeout", issuer.lookupTimeout.text)]

end Gatehouse.Token
