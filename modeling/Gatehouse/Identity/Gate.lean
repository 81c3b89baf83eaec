import Gatehouse.Error
import Gatehouse.Identity.Access
import Gatehouse.Identity.Gateway

/-! Gates in front of a handler.  A gateway layer attaches the caller unless one is attached
already, an authenticated layer refuses a request without a caller, and a role layer refuses a
caller with none of its roles.  `Layer.passAll` runs layers from the outermost one inwards and
fails at the first that refuses. -/

namespace Gatehouse.Identity

open Net Web Text

/-- A set of roles, one of which a caller must have. -/
structure RoleGate where
  roles : List String
  isNonempty : roles ≠ []

/-- Why there is no gate for some roles. -/
inductive RoleGateError where
  | emptyRoleList
  deriving DecidableEq, Repr

def RoleGateError.message : RoleGateError → String
  | .emptyRoleList => "role gate requires at least one role"

namespace RoleGate

def anyOf (roles : List String) : Except RoleGateError RoleGate :=
  if h : roles = [] then .error .emptyRoleList else .ok ⟨roles, h⟩

def admin : RoleGate := ⟨[adminRole], by simp⟩

def userOrAdmin : RoleGate := ⟨[userRole, adminRole], by simp⟩

def allows (gate : RoleGate) (role : String) : Bool := gate.roles.any (sameUpToCase · role)

/-- Lets a request with a caller through if the caller has one of the roles. -/
def check (gate : RoleGate) (c : Context) : Except ApiError Unit :=
  match c.requireUserId with
  | .error e => .error (.ofContext e)
  | .ok _ =>
    if c.principal.any fun p => p.roles.any gate.allows then .ok () else .error .forbidden

end RoleGate

/-- The caller of a request, with a number that is not 0 and a role that is not empty. -/
def Context.caller (c : Context) : Except ApiError Principal := do
  let _ ← c.requireUserId.mapError .ofContext
  let _ ← c.requireRole.mapError .ofContext
  match c.principal with
  | some p => return p
  | none => throw .unauthenticated

inductive Layer where
  | gateway (policy : GatewayPolicy)
  | authenticated
  | role (gate : RoleGate)

/-- What one layer makes of a request. -/
def Layer.pass (headers : Headers) (peer : Option SocketAddress) :
    Layer → Context → Except ApiError Context
  | .gateway policy, c =>
    if c.principal.isSome then .ok c
    else match policy.extract headers peer with
      | .ok p => .ok (c.attach p)
      | .error e => .error (.ofIdentity e)
  | .authenticated, c => if c.isAuthenticated then .ok c else .error .unauthenticated
  | .role gate, c => (gate.check c).map fun _ => c

/-- What a stack of layers makes of a request, the outermost one first. -/
def Layer.passAll (headers : Headers) (peer : Option SocketAddress) (layers : List Layer)
    (c : Context) : Except ApiError Context :=
  layers.foldlM (fun c layer => layer.pass headers peer c) c

end Gatehouse.Identity
