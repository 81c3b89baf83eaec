import Gatehouse.Error
import Gatehouse.Identity.Principal
import Gatehouse.Web.Template

/-! The number of a user in the path of a request.  It follows the rule of the identity header, and
0 is nobody's number. -/

namespace Gatehouse.Service

open Identity Web

/-- The error for a path without a readable user number. -/
def invalidPath (message : String) : ApiError := .badRequest "INVALID_PATH" message

/-- The user that the one parameter of a path names. -/
def pathUser (params : List (String × List UInt8)) : Except ApiError UserId :=
  match Template.decodeParams? params with
  | some [(_, raw)] =>
    match parseUserId raw with
    | .ok id =>
      if id == 0 then .error (invalidPath "user id must be a positive 32-bit integer") else .ok id
    | .error _ => .error (invalidPath "user id must be a positive 32-bit integer")
  | _ => .error (invalidPath "missing user id in path")

end Gatehouse.Service
