import Gatehouse.Identity.Principal

/-! What a request carries about its caller.  The soft readers give 0 and the empty text where there
is no caller; the strict ones give an error. -/

namespace Gatehouse.Identity

/-- The caller attached to a request, if there is one. -/
structure Context where
  principal : Option Principal
  deriving DecidableEq, Repr

/-- What is lacking. -/
inductive ContextError where
  | userIdNotFound
  | roleNotFound
  deriving DecidableEq, Repr

def ContextError.message : ContextError → String
  | .userIdNotFound => "user id not found in request context"
  | .roleNotFound => "user role not found in request context"

namespace Context

/-- A request without a caller. -/
def empty : Context := ⟨none⟩

/-- Attaches a caller in place of any other. -/
def attach (_ : Context) (p : Principal) : Context := ⟨some p⟩

/-- The number of the caller, or 0. -/
def userId (c : Context) : UserId := (c.principal.map Principal.id).getD 0

/-- The role of the caller, or the empty text. -/
def role (c : Context) : String := (c.principal.map Principal.role).getD ""

/-- Is there a caller with a number of its own? -/
def isAuthenticated (c : Context) : Bool := c.userId != 0

/-- The number of the caller, which is not 0. -/
def requireUserId (c : Context) : Except ContextError UserId :=
  if c.userId == 0 then .error .userIdNotFound else .ok c.userId

/-- The role of the caller, which is not empty. -/
def requireRole (c : Context) : Except ContextError String :=
  if c.role.isEmpty then .error .roleNotFound else .ok c.role

end Context

end Gatehouse.Identity
