import Gatehouse.Identity.Gate
import Gatehouse.Service.Message
import Gatehouse.Service.UserPath
import Gatehouse.Token.Request
import Gatehouse.Users.Listing
import Gatehouse.Users.Request
import Gatehouse.Web.MediaType

/-! What a request asks for.  `Operation` names the operations of the service, and a `Task` is one
of them with everything it needs.  `Task.ofRequest` makes all the checks that need no database, in
a fixed order, and a request that fails one of them becomes no task. -/

namespace Gatehouse.Service

open Identity Users Token Web

inductive Operation where
  | health
  | me
  | getUser
  | updateUser
  | deleteUser
  | listUsers
  | createUser
  | issueTokens
  deriving DecidableEq, Repr

/-- An operation with what it needs. -/
inductive Task where
  | health
  | showUser (user : UserId)
  | updateUser (user : UserId) (name email : Option String)
  | deleteUser (user : UserId)
  | listUsers (name : Option String) (limit offset : Int)
  | createUser (name email : String)
  | issueTokens (subject : Subject) (roles : Option (List String))
  deriving DecidableEq, Repr

/-- The most octets of a body that are read whatever the settings say. -/
def bufferLimit : Nat := 2097152

/-- The octets that the header on its length promises for a body. -/
def declaredLength (headers : Headers) : Option Nat :=
  ((headers.first? "content-length").bind readable?).bind (Text.Decimal.naturalBelow? UInt64.size)

/-- The most octets of a body that are read: no more than the settings, the declared length and the
buffer allow. -/
def bodyLimit (limit : Nat) (headers : Headers) : Nat :=
  min (min limit ((declaredLength headers).getD limit)) bufferLimit

/-- Reads the body of a request as JSON of some shape. -/
def readBody {α : Type} (shape : Json.Shape α) (limit : Nat) (r : Request) :
    Except Rejection α :=
  if !MediaType.isJson r.headers then .error .notJson
  else if bodyLimit limit r.headers < r.body.length then .error (.bodyTooLarge r.complaint)
  else match shape.read r.body with
    | .ok a => .ok a
    | .error .malformed => .error (.malformedJson r.complaint)
    | .error .mismatch => .error (.unfitJson r.complaint)

/-- The error for a request that was read but breaks a rule. -/
def validationError (message : String) : ApiError := .badRequest "VALIDATION_ERROR" message

/-- Refuses a caller who may not access a user. -/
def ensureAccess (p : Principal) (user : UserId) : Except ApiError Unit :=
  if p.canAccess user then .ok () else .error .forbidden

namespace Task

/-- The task that a request asks for, if it passes every check. -/
def ofRequest (op : Operation) (limit : Nat) (c : Context) (params : List (String × List UInt8))
    (r : Request) : Except Failure Task :=
  match op with
  | .health => return .health
  | .me => do
    let p ← c.caller.mapError .api
    return .showUser p.id
  | .getUser => do
    let p ← c.caller.mapError .api
    let user ← (pathUser params).mapError .api
    (ensureAccess p user).mapError .api
    return .showUser user
  | .updateUser => do
    let p ← c.caller.mapError .api
    let user ← (pathUser params).mapError .api
    let u ← (readBody UpdateUser.shape limit r).mapError .rejected
    (ensureAccess p user).mapError .api
    u.validate.mapError fun e => .api (validationError e.message)
    return .updateUser user (u.name.map Text.trim) (u.email.map Text.trim)
  | .deleteUser => do
    let p ← c.caller.mapError .api
    let user ← (pathUser params).mapError .api
    (ensureAccess p user).mapError .api
    return .deleteUser user
  | .listUsers =>
    match ListQuery.parse? r.target.query with
    | some q => return .listUsers q.nameFilter q.effectiveLimit q.effectiveOffset
    | none => throw (.rejected (.unreadableQuery r.complaint))
  | .createUser => do
    let _ ← c.caller.mapError .api
    let u ← (readBody CreateUser.shape limit r).mapError .rejected
    u.validate.mapError fun e => .api (validationError e.message)
    return .createUser (Text.trim u.name) (Text.trim u.email)
  | .issueTokens => do
    let _ ← c.caller.mapError .api
    let t ← (readBody IssueTokens.shape limit r).mapError .rejected
    t.validate.mapError fun e => .api (validationError e.message)
    return .issueTokens t.subject t.roles

end Task

end Gatehouse.Service
