import Gatehouse.Service.Message
import Gatehouse.Settings

/-! Requests across origins.  In development every origin is admitted; in production the listed ones
are, as far as they can be the value of a header. -/

namespace Gatehouse.Service.Cors

open Web Text

/-- The listed origins that can be the value of a header. -/
def legalOrigins (settings : Settings) : List (List UInt8) :=
  (settings.corsOrigins.map Utf8.encode).filter (·.all isValueOctet)

/-- The origin that a response admits. -/
def admittedOrigin (settings : Settings) (headers : Headers) : Option (List UInt8) :=
  match settings.environment with
  | .development => some (Utf8.encode "*")
  | .production =>
    (headers.first? "origin").filter fun origin => (legalOrigins settings).contains origin

/-- The headers that admit an origin. -/
def originHeaders (settings : Settings) (headers : Headers) : Headers :=
  match admittedOrigin settings headers with
  | some origin => [("access-control-allow-origin", origin)]
  | none => []

/-- What the response depends on. -/
def varyHeader : String × List UInt8 :=
  Response.header "vary" "origin, access-control-request-method, access-control-request-headers"

/-- The methods, headers and seconds that answer a request in advance. -/
def preflightHeaders : Headers :=
  [Response.header "access-control-allow-methods" "GET,POST,PUT,DELETE,OPTIONS",
    Response.header "access-control-allow-headers"
      "content-type,accept,x-request-id,x-user-id,x-user-role",
    Response.header "access-control-max-age" "600"]

/-- The answer to a request in advance. -/
def preflight (settings : Settings) (headers : Headers) : Response :=
  ⟨200, originHeaders settings headers ++ varyHeader :: preflightHeaders, .empty⟩

/-- A response with the headers that admit an origin. -/
def decorate (settings : Settings) (headers : Headers) (r : Response) : Response :=
  r.withHeaders (originHeaders settings headers ++ [varyHeader])

end Gatehouse.Service.Cors
