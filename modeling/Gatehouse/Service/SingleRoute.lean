import Gatehouse.Identity.Gate
import Gatehouse.Service.Message
import Gatehouse.Service.UserPath

/-! Services with a single route.  `answerCaller` stands behind a stack of layers and says who the
caller is; `answerUserPath` stands at a template of paths and says which user a path names. -/

namespace Gatehouse.Service

open Identity Net Web

/-- The caller in one text. -/
def callerText (p : Principal) : String := s!"{p.id.toNat}:{p.role}"

/-- The answer of a handler that says who the caller is, behind a stack of layers. -/
def answerCaller (layers : List Layer) (headers : Headers) (peer : Option SocketAddress)
    (c : Context) : Response :=
  match (Layer.passAll headers peer layers c).bind Context.caller with
  | .ok p => .text 200 (callerText p)
  | .error e => .ofError e

/-- The answer of a handler that says which user a path names. -/
def answerUserPath (template : Template) (method : String) (path : List UInt8) : Response :=
  match template.rawParams? path with
  | none => .ofStatus 404
  | some params =>
    if method == "GET" || method == "HEAD" then
      let response := match pathUser params with
        | .ok user => .text 200 (toString user.toNat)
        | .error e => .ofError e
      if method == "HEAD" then response.withoutBody else response
    else .ofStatus 405

end Gatehouse.Service
