import Gatehouse.Service.Cors
import Gatehouse.Service.Perform
import Gatehouse.Service.Route

/-! The whole service.  `handle` is the answer to one request as a computation that asks the
backend; `answer` runs it against one, and a request on which the backend stays silent runs into
the time limit. -/

namespace Gatehouse.Service

open Web

/-- The headers for security that every response of the router carries. -/
def securityHeaders : Headers :=
  [Response.header "x-frame-options" "DENY",
    Response.header "content-security-policy" "default-src 'none'; frame-ancestors 'none'",
    Response.header "x-content-type-options" "nosniff",
    Response.header "referrer-policy" "no-referrer",
    Response.header "cache-control" "no-store"]

def requestIdHeader : String := "x-request-id"

/-- The identifier of a request: its own, or a new one. -/
def requestId (newId : String) (headers : Headers) : List UInt8 :=
  (headers.first? requestIdHeader).getD (Text.Utf8.encode newId)

/-- The methods of the route for a path, if it does not offer the one of the request. -/
def allowHeaders (r : Request) : Headers :=
  match findRoute r.target.path with
  | some (route, _) =>
    if (route.operation? r.method).isSome then []
    else [Response.header "allow" (",".intercalate route.methods)]
  | none => []

/-- Is the body of the response left out?  A route leaves it out for HEAD; where no route fits the
path, the response is sent whole. -/
def leavesOutBody (r : Request) : Bool :=
  r.method == "HEAD" && (findRoute r.target.path).isSome

/-- Does a request promise more octets than the settings allow? -/
def exceedsLimit (settings : Settings) (headers : Headers) : Bool :=
  match declaredLength headers with
  | some n => settings.bodyLimit.toNat < n
  | none => false

def route (f : Facilities) (r : Request) : Action Response := do
  let response ← match plan f.settings r with
    | .answer response => pure response
    | .task task => perform f task
  return response.withHeaders securityHeaders

/-- The answer within the limits on the length of requests. -/
def answerWithinLimits (f : Facilities) (r : Request) : Action Response := do
  if exceedsLimit f.settings r.headers then
    return .ofFailure (.rejected .lengthLimitExceeded)
  else if r.method == "OPTIONS" then
    return Cors.preflight f.settings r.headers
  else
    return Cors.decorate f.settings r.headers (← route f r)

def handle (f : Facilities) (newId : String) (r : Request) : Action Response := do
  let response ← answerWithinLimits f r
  let response := if leavesOutBody r then response.withoutBody else response
  return response.withHeaders ((requestIdHeader, requestId newId r.headers) :: allowHeaders r)

/-- The answer to a request that took too long. -/
def timeout : Response := .ofStatus 408

/-- Answers a request with the help of a backend. -/
def answer (f : Facilities) (newId : String) (r : Request) (b : Backend) : Response × Backend :=
  match (handle f newId r).run Backend.respond b with
  | (some response, b) => (response, b)
  | (none, b) => (timeout, b)

/-- What came of a request: the response, and what the backend was asked for it. -/
structure Exchange where
  response : Response
  statements : List Statement
  commands : List Cache.Command

def answerAll (f : Facilities) (newId : String) : List Request → Backend → List Exchange
  | [], _ => []
  | r :: rs, b =>
    let (response, after) := answer f newId r b.forget
    ⟨response, after.statements, after.commands⟩ :: answerAll f newId rs after

end Gatehouse.Service
