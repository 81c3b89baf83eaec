import Gatehouse.Error
import Gatehouse.Screen.Signature
import Gatehouse.Web.Form

/-! The guard over the parameters of a request.  The values of the query are looked at in order, and
then those of the path; the first suspicious one is refused by its key. -/

namespace Gatehouse.Screen

/-- The key of the first suspicious value. -/
def firstSuspect (params : List (String × String)) : Option String :=
  (params.find? fun p => (classify p.2).isSome).map Prod.fst

/-- Refuses a request with a suspicious parameter.  The query is given in the form encoding. -/
def inspect (query : Option (List UInt8)) (path : List (String × String)) : Except ApiError Unit :=
  match firstSuspect ((query.map Web.Form.decode).getD []) with
  | some key => .error (.invalidInput .query key)
  | none =>
    match firstSuspect path with
    | some key => .error (.invalidInput .path key)
    | none => .ok ()

end Gatehouse.Screen
