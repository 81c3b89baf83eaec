import Gatehouse.Identity.Principal

/-! What a caller may do.  Roles are compared up to the case of ASCII letters. -/

namespace Gatehouse.Identity.Principal

open Text

def hasRole (p : Principal) (name : String) : Bool := sameUpToCase p.role name

def isAdmin (p : Principal) : Bool := p.hasRole adminRole

/-- An administrator may access every user's record, and everybody their own. -/
def canAccess (p : Principal) (target : UserId) : Bool := p.isAdmin || p.id == target

/-- The roles of a caller: the one role, or none if it is empty. -/
def roles (p : Principal) : List String := if p.role.isEmpty then [] else [p.role]

end Gatehouse.Identity.Principal
