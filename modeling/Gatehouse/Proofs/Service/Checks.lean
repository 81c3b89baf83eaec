import Gatehouse.Proofs.Identity.Headers
import Gatehouse.Proofs.Screen.Guard
import Gatehouse.Proofs.Service.Handling
import Gatehouse.Proofs.Service.Routes

/-! The checks that a request to a guarded route has to pass, one by one.  `Visit.failure?` says
what a single check has against a request, whatever the other checks say; `Check.inOrder` is the
order in which they count. -/

namespace Gatehouse.Service

open Identity Users Token Web Screen

/-- What an operation wants of a body: its shape, and the rules for what was read. -/
structure BodyForm where
  {Content : Type}
  shape : Json.Shape Content
  brokenRule? : Content → Option String

/-- The form of a body with a shape, and with rules that have errors of their own. -/
def BodyForm.of {α ε : Type} (shape : Json.Shape α) (validate : α → Except ε Unit)
    (message : ε → String) : BodyForm :=
  ⟨shape, fun content => (errorOf (validate content)).map message⟩

namespace Operation

/-- Is the user of the operation named in the path? -/
def isOnPathUser : Operation → Bool
  | .getUser | .updateUser | .deleteUser => true
  | .health | .me | .listUsers | .createUser | .issueTokens => false

/-- What the operation wants of a body, if it reads one. -/
def form? : Operation → Option BodyForm
  | .updateUser => some (.of UpdateUser.shape UpdateUser.validate Users.RequestError.message)
  | .createUser => some (.of CreateUser.shape CreateUser.validate Users.RequestError.message)
  | .issueTokens => some (.of IssueTokens.shape IssueTokens.validate Token.RequestError.message)
  | .health | .me | .getUser | .deleteUser | .listUsers => none

end Operation

/-- A request on its way to an operation: the route and the parameters of its path, and the gate in
front of the route. -/
structure Visit where
  facilities : Facilities
  newId : String
  request : Request
  route : Route
  params : List (String × List UInt8)
  gate : RoleGate
  operation : Operation

/-- The request matches a route behind a gate and a method of it, it is no request in advance, and
it does not promise too long a body. -/
structure Visit.Arrives (v : Visit) : Prop where
  within_limit : exceedsLimit v.facilities.settings v.request.headers = false
  not_options : v.request.method ≠ "OPTIONS"
  matched : findRoute v.request.target.path = some (v.route, v.params)
  gated : v.route.group.gate? = some v.gate
  offered : v.route.operation? v.request.method = some v.operation

/-- A check on a request. -/
inductive Check where
  | parameterText
  | queryValues
  | pathValues
  | peer
  | userIdGiven
  | userIdForm
  | roleGiven
  | nonzeroId
  | roleGate
  | pathUser
  | listQuery
  | contentType
  | bodySize
  | jsonText
  | jsonShape
  | ownership
  | rules
  deriving DecidableEq, Repr

namespace Check

/-- The checks on what anybody may have sent. -/
def onParameters : List Check := [.parameterText, .queryValues, .pathValues]

/-- The checks on the caller. -/
def onCaller : List Check := [.peer, .userIdGiven, .userIdForm, .roleGiven, .nonzeroId, .roleGate]

/-- The checks on a body. -/
def onBody : List Check := [.contentType, .bodySize, .jsonText, .jsonShape]

/-- The checks of the operations. -/
def onTask : List Check := [.pathUser, .listQuery] ++ onBody ++ [.ownership, .rules]

/-- All the checks in the order in which they count. -/
def inOrder : List Check := onParameters ++ onCaller ++ onTask

/-- The status and the code of the response to a request that fails the check.  A request that could
not be read is answered in plain text, without a code. -/
def outcome : Check → Nat × Option String
  | .parameterText | .queryValues | .pathValues => (400, some "INVALID_INPUT")
  | .peer | .userIdGiven | .roleGiven | .nonzeroId => (401, some "UNAUTHENTICATED")
  | .userIdForm => (401, some "MALFORMED_IDENTITY")
  | .roleGate | .ownership => (403, some "FORBIDDEN")
  | .pathUser => (400, some "INVALID_PATH")
  | .listQuery | .jsonText => (400, none)
  | .contentType => (415, none)
  | .bodySize => (413, none)
  | .jsonShape => (422, none)
  | .rules => (400, some "VALIDATION_ERROR")

/-- The checks before a check. -/
def earlier (check : Check) : List Check := inOrder.takeWhile (· != check)

theorem mem_inOrder (check : Check) : check ∈ inOrder := by
  cases check <;> decide

end Check

/-- The code of a failure, if it has one. -/
def Failure.code? : Failure → Option String
  | .api e => some e.code
  | .rejected _ => none

/-- A failure in some case. -/
def failIf (c : Bool) (e : Failure) : Option Failure := if c then some e else none

theorem failIf_eq_some_iff {c : Bool} {e e' : Failure} :
    failIf c e = some e' ↔ c = true ∧ e = e' := by
  simp [failIf]

namespace Visit

variable (v : Visit)

/-- The policy that callers are read by. -/
def policy : GatewayPolicy := v.facilities.settings.gatewayPolicy

/-- The caller that the headers name; without a number in them it is nobody. -/
def caller : Principal :=
  ⟨match Principal.idOfHeaders v.request.headers with
    | .ok id => id
    | .error _ => 0, roleOrUser v.request.headers⟩

/-- Is the number of the caller lacking? -/
def lacksUserId : Bool :=
  match v.request.headers.first? userIdHeader with
  | none => true
  | some value => readable? value == some ""

/-- The error in reading a body of some form. -/
def readError? (form : BodyForm) : Option Json.ReadError :=
  errorOf (form.shape.read v.request.body)

/-- The rule that a body of some form breaks, if it can be read. -/
def brokenRule? (form : BodyForm) : Option String :=
  match form.shape.read v.request.body with
  | .ok content => form.brokenRule? content
  | .error _ => none

/-- What a check has against the request. -/
def failure? : Check → Option Failure
  | .parameterText =>
    failIf (Template.decodeParams? v.params).isNone (.api unreadableParameter)
  | .queryValues =>
    (firstSuspect (queryPairs v.request.target.query)).map fun key =>
      .api (.invalidInput .query key)
  | .pathValues =>
    (firstSuspect ((Template.decodeParams? v.params).getD [])).map fun key =>
      .api (.invalidInput .path key)
  | .peer => failIf (!v.policy.trust.admits v.request.peer) (.api .unauthenticated)
  | .userIdGiven => failIf v.lacksUserId (.api .unauthenticated)
  | .userIdForm =>
    failIf (Principal.idOfHeaders v.request.headers matches .error .malformed)
      (.api .malformedIdentity)
  | .roleGiven =>
    failIf (v.policy.requireRole && (Principal.roleOfHeaders v.request.headers).isNone)
      (.api .unauthenticated)
  | .nonzeroId => failIf (v.caller.id == 0) (.api .unauthenticated)
  | .roleGate => failIf (!v.gate.allows v.caller.role) (.api .forbidden)
  | .pathUser =>
    if v.operation.isOnPathUser then (errorOf (pathUser v.params)).map .api else none
  | .listQuery =>
    failIf (v.operation == .listUsers && (ListQuery.parse? v.request.target.query).isNone)
      (.rejected (.unreadableQuery v.request.complaint))
  | .contentType =>
    failIf (v.operation.form?.isSome && !MediaType.isJson v.request.headers) (.rejected .notJson)
  | .bodySize =>
    failIf (v.operation.form?.isSome &&
        bodyLimit v.facilities.settings.bodyLimit.toNat v.request.headers < v.request.body.length)
      (.rejected (.bodyTooLarge v.request.complaint))
  | .jsonText =>
    failIf (v.operation.form?.any (v.readError? · == some .malformed))
      (.rejected (.malformedJson v.request.complaint))
  | .jsonShape =>
    failIf (v.operation.form?.any (v.readError? · == some .mismatch))
      (.rejected (.unfitJson v.request.complaint))
  | .ownership =>
    failIf (v.operation.isOnPathUser && (pathUser v.params).toOption.any (!v.caller.canAccess ·))
      (.api .forbidden)
  | .rules =>
    (v.operation.form?.bind v.brokenRule?).map fun message => .api (validationError message)

/-- The first thing that some checks have against the request. -/
def firstFailure (checks : List Check) : Option Failure := checks.findSome? v.failure?

@[simp] theorem firstFailure_nil : v.firstFailure [] = none := rfl

@[simp] theorem firstFailure_cons (check : Check) (checks : List Check) :
    v.firstFailure (check :: checks) = (v.failure? check).or (v.firstFailure checks) :=
  findSome?_cons_eq_or _ _ _

theorem firstFailure_append (checks more : List Check) :
    v.firstFailure (checks ++ more) = (v.firstFailure checks).or (v.firstFailure more) :=
  List.findSome?_append

end Visit

end Gatehouse.Service
