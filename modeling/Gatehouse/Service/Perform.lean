import Gatehouse.Roles.Cached
import Gatehouse.Service.Backend
import Gatehouse.Service.Task

/-! Carrying out tasks.  A task runs its one statement and answers with what came of it; a deleted
user's roles leave the cache, and tokens without given roles look them up. -/

namespace Gatehouse.Service

open Identity Users Roles Token Time

/-- What tasks need to know: the settings, whether the cache that they name could be opened, and
the stamp for new tokens. -/
structure Facilities where
  settings : Settings
  cacheOpened : Bool
  stamp : Stamp

namespace Facilities

/-- Is there a cache?  Without one every role is looked up in the database. -/
def hasCache (f : Facilities) : Bool := f.settings.cacheUrl.isSome && f.cacheOpened

/-- The roles of a user in the database.  Where it does not answer, either the limit of the lookup is
up first, and the lookup is silent, or that of the request. -/
def databaseRoles (user : UserId) : Action LookupAnswer := do
  return (← query (.rolesOf user)).roles

/-- The roles of a user, through the cache if there is one. -/
def lookupRoles (f : Facilities) (user : UserId) : Action LookupAnswer :=
  if f.hasCache then lookupCached send databaseRoles f.settings.roleCacheTtl user
  else databaseRoles user

/-- What issues tokens. -/
def issuer (f : Facilities) : Issuer Call Call.Answer where
  settings := f.settings.tokens
  lookup := some f.lookupRoles
  lookupTimeout := .ofSeconds f.settings.requestTimeout.toNat

end Facilities

/-- The error for a user that does not exist. -/
def userNotFound : ApiError := .notFound "user"

/-- The answer with a user that may not exist. -/
def answerUser (r : Except RepoError (Option UserRow)) : Response :=
  match r with
  | .ok (some row) => .json 200 row.toJson
  | .ok none => .ofError userNotFound
  | .error e => .ofError (errorOfRepo e)

/-- The body of the answer that the service is well. -/
def healthBody : Json := .record [("status", .text "ok"), ("service", .text "gateway-api")]

def perform (f : Facilities) : Task → Action Response
  | .health => return .json 200 healthBody
  | .showUser user => do
    return answerUser (← query (.getUser user)).user?
  | .updateUser user name email => do
    return answerUser (← query (.updateUser user name email)).written?
  | .deleteUser user => do
    match (← query (.deleteUser user)).deleted with
    | .error e => return .ofError (errorOfRepo e)
    | .ok false => return .ofError userNotFound
    | .ok true =>
      if f.hasCache then invalidate send user
      return .ofStatus 204
  | .listUsers name limit offset => do
    match (← query (.listUsers name limit offset)).users with
    | .ok rows => return .json 200 (.list (rows.map UserRow.toJson))
    | .error e => return .ofError (errorOfRepo e)
  | .createUser name email => do
    match (← query (.createUser name email)).created with
    | .ok row => return .json 201 row.toJson
    | .error e => return .ofError (errorOfRepo e)
  | .issueTokens subject roles => do
    match ← f.issuer.issuePair f.stamp subject roles with
    | .ok pair => return .json 200 pair.toJson
    | .error e => return .ofError e

end Gatehouse.Service
