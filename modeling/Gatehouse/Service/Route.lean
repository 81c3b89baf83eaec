import Gatehouse.Screen.Guard
import Gatehouse.Service.Task
import Gatehouse.Settings

/-! The routes of the service.  Each belongs to a group that says which layers stand in front of it,
and offers its operations by method.  `plan` takes a request through all of this: the guard over
its parameters, the layers of the group, the method, and the checks of the operation. -/

namespace Gatehouse.Service

open Identity Web Screen

inductive Group where
  /-- Open to everybody and not screened, for probes of the service. -/
  | probe
  /-- Open to everybody, with screened parameters. -/
  | everybody
  /-- For users and administrators. -/
  | users
  /-- For administrators. -/
  | admin
  deriving DecidableEq, Repr

def Group.isScreened : Group → Bool
  | .probe => false
  | .everybody | .users | .admin => true

/-- The layers of a group, the outermost one first. -/
def Group.layers (policy : GatewayPolicy) : Group → List Layer
  | .probe | .everybody => []
  | .users => [.gateway policy, .authenticated, .role .userOrAdmin]
  | .admin => [.gateway policy, .authenticated, .role .admin]

/-- A route: the template of its paths, its group, and its operations by method. -/
structure Route where
  template : Template
  group : Group
  operations : List (String × Operation)

/-- A text of the path as it stands. -/
def literal (s : String) : Piece := .literal (Text.Utf8.encode s)

def userOperations : List (String × Operation) :=
  [("GET", .getUser), ("PUT", .updateUser), ("DELETE", .deleteUser)]

/-- The routes.  Where two templates fit a path, the first one counts. -/
def routes : List Route :=
  [⟨[literal "/health"], .probe, [("GET", .health)]⟩,
    ⟨[literal "/api/v1/health"], .everybody, [("GET", .health)]⟩,
    ⟨[literal "/api/v1/users/me"], .users, [("GET", .me)]⟩,
    ⟨[literal "/api/v1/users/", .segment "user_id"], .users, userOperations⟩,
    ⟨[literal "/api/v1/admin/users"], .admin, [("GET", .listUsers), ("POST", .createUser)]⟩,
    ⟨[literal "/api/v1/admin/users/", .segment "user_id"], .admin, userOperations⟩,
    ⟨[literal "/api/v1/admin/tokens"], .admin, [("POST", .issueTokens)]⟩]

/-- The parameters of a path that fits the route. -/
def Route.params? (route : Route) (path : List UInt8) : Option (List (String × List UInt8)) :=
  route.template.rawParams? path

/-- The route for a path, with the parameters. -/
def findRoute (path : List UInt8) : Option (Route × List (String × List UInt8)) :=
  routes.findSome? fun route => (route.params? path).map (route, ·)

/-- The operation for a method; what can be got can also be asked for without its body. -/
def Route.operation? (route : Route) (method : String) : Option Operation :=
  route.operations.lookup (if method == "HEAD" then "GET" else method)

def Route.methods (route : Route) : List String :=
  route.operations.flatMap fun o => if o.1 == "GET" then ["GET", "HEAD"] else [o.1]

/-- The error for a parameter of the path that is no text. -/
def unreadableParameter : ApiError := .badRequest "INVALID_INPUT" "invalid utf-8 in path parameter"

def screen (query : Option (List UInt8)) (params : List (String × List UInt8)) :
    Except ApiError Unit :=
  match Template.decodeParams? params with
  | none => .error unreadableParameter
  | some params => inspect query params

/-- Screens a request, if its group is screened, and passes it through the layers of the group. -/
def Route.pass (route : Route) (policy : GatewayPolicy) (params : List (String × List UInt8))
    (r : Request) : Except ApiError Context := do
  if route.group.isScreened then screen r.target.query params
  Layer.passAll r.headers r.peer (route.group.layers policy) Context.empty

/-- What the service has decided on a request before it asks anything: a response, or a task. -/
inductive Plan where
  | answer (r : Response)
  | task (t : Task)

def plan (settings : Settings) (r : Request) : Plan :=
  match findRoute r.target.path with
  | none => .answer (.ofStatus 404)
  | some (route, params) =>
    match route.pass settings.gatewayPolicy params r with
    | .error e => .answer (.ofError e)
    | .ok c =>
      match route.operation? r.method with
      | none => .answer (.ofStatus 405)
      | some op =>
        match Task.ofRequest op settings.bodyLimit.toNat c params r with
        | .error e => .answer (.ofFailure e)
        | .ok task => .task task

end Gatehouse.Service
