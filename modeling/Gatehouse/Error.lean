import Gatehouse.Identity.Context
import Gatehouse.Json.Basic

/-! The errors that the service answers with.  Each has a stable code, a status, and a message that
names no value of the caller's but the key of a parameter; `ApiError.body` is the one form in which
they are written. -/

namespace Gatehouse

open Identity

/-- Where a parameter stands. -/
inductive ParameterPlace where
  | query
  | path
  deriving DecidableEq, Repr

def ParameterPlace.name : ParameterPlace → String
  | .query => "query"
  | .path => "path"

inductive ApiError where
  | badRequest (code : String) (message : String)
  | notFound (resource : String)
  | unauthenticated
  | malformedIdentity
  | forbidden
  | conflict
  | invalidInput (place : ParameterPlace) (key : String)
  | roleLookupFailed
  | signingFailed
  | internal
  deriving DecidableEq, Repr

namespace ApiError

/-- The text of an error for diagnostics. -/
def description : ApiError → String
  | badRequest code message => s!"{code}: {message}"
  | notFound resource => s!"not found: {resource}"
  | unauthenticated => "unauthenticated"
  | malformedIdentity => "malformed identity"
  | forbidden => "forbidden"
  | conflict => "conflict"
  | invalidInput place key => s!"invalid input detected in {place.name} parameter: {key}"
  | roleLookupFailed => "role lookup failed"
  | signingFailed => "token signing failed"
  | internal => "internal server error"

def code : ApiError → String
  | badRequest code _ => code
  | notFound _ => "NOT_FOUND"
  | unauthenticated => "UNAUTHENTICATED"
  | malformedIdentity => "MALFORMED_IDENTITY"
  | forbidden => "FORBIDDEN"
  | conflict => "CONFLICT"
  | invalidInput .. => "INVALID_INPUT"
  | roleLookupFailed | signingFailed | internal => "INTERNAL_SERVER_ERROR"

def status : ApiError → Nat
  | badRequest .. | invalidInput .. => 400
  | notFound _ => 404
  | unauthenticated | malformedIdentity => 401
  | forbidden => 403
  | conflict => 409
  | roleLookupFailed | signingFailed | internal => 500

/-- The message that the caller sees. -/
def message : ApiError → String
  | badRequest _ message => message
  | notFound resource => s!"{resource} not found."
  | unauthenticated => "missing or invalid user identity"
  | malformedIdentity => "invalid user id format"
  | forbidden => "insufficient permissions"
  | conflict => "resource already exists"
  | invalidInput place key => (invalidInput place key).description
  | roleLookupFailed | signingFailed | internal => "internal server error"

def body (e : ApiError) : Json :=
  .record [("error", .record [("code", .text e.code), ("message", .text e.message)])]

/-- What an identity error is answered with. -/
def ofIdentity : IdentityError → ApiError
  | .missing | .untrusted | .missingRole => unauthenticated
  | .malformed => malformedIdentity

/-- What a context error is answered with. -/
def ofContext : ContextError → ApiError
  | _ => unauthenticated

end ApiError

end Gatehouse
