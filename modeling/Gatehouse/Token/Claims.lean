import Gatehouse.Identity.Principal
import Gatehouse.Json.Basic

/-! The claims of the two kinds of tokens.  An access token says who the user is and which roles the
user has; a refresh token says only whose it is and that it is one.  Times are seconds since the
start of 1970. -/

namespace Gatehouse.Token

open Identity

/-- A point in time in seconds. -/
abbrev Seconds := Int64

/-- When a token is good, and its own identifier. -/
structure Validity where
  issuedAt : Seconds
  expiresAt : Seconds
  tokenId : String
  deriving DecidableEq, Repr

/-- The claims about validity.  A token is good from the time when it is issued. -/
def Validity.members (v : Validity) : List (String × Json) :=
  [("iat", .int v.issuedAt.toInt), ("nbf", .int v.issuedAt.toInt),
    ("exp", .int v.expiresAt.toInt), ("jti", .text v.tokenId)]

/-- A user's number as the subject of a token. -/
def subjectText (user : UserId) : String := toString user.toNat

structure AccessClaims where
  subject : UserId
  email : String
  name : String
  roles : List String
  validity : Validity
  deriving DecidableEq, Repr

def AccessClaims.toJson (c : AccessClaims) : Json :=
  .record ([("sub", .text (subjectText c.subject)), ("email", .text c.email),
    ("name", .text c.name), ("roles", Json.texts c.roles)] ++ c.validity.members)

structure RefreshClaims where
  subject : UserId
  validity : Validity
  deriving DecidableEq, Repr

def RefreshClaims.toJson (c : RefreshClaims) : Json :=
  .record ([("sub", .text (subjectText c.subject)), ("type", .text "refresh")] ++
    c.validity.members)

end Gatehouse.Token
