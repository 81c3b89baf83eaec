import Gatehouse.Error
import Gatehouse.Net.Address
import Gatehouse.Text.Utf8
import Gatehouse.Web.Header
import Gatehouse.Web.Target

/-! Requests and responses.  What fails is answered with the JSON body of an `ApiError`, or, where
the request itself could not be read, with a `Rejection` in plain text.  Bodies and queries are read
by a reader that has words of its own for what is wrong with them.  A request comes with the
complaint of the reader, of which nothing is assumed, and a rejection passes it on. -/

namespace Gatehouse.Service

open Net Web Text

structure Request where
  method : String
  target : Target
  headers : Headers
  body : List UInt8
  peer : Option SocketAddress
  /-- What the reader of bodies and queries says of this one, should it be unable to read it. -/
  complaint : String

inductive Body where
  | empty
  | json (j : Json)
  | text (s : String)

structure Response where
  status : Nat
  headers : Headers
  body : Body

/-- Why a request could not be read, with the complaint of the reader if that was what failed. -/
inductive Rejection where
  | lengthLimitExceeded
  | bodyTooLarge (complaint : String)
  | notJson
  | malformedJson (complaint : String)
  | unfitJson (complaint : String)
  | unreadableQuery (complaint : String)
  deriving DecidableEq, Repr

namespace Rejection

def status : Rejection → Nat
  | lengthLimitExceeded | bodyTooLarge _ => 413
  | notJson => 415
  | malformedJson _ | unreadableQuery _ => 400
  | unfitJson _ => 422

/-- The text of a rejection.  The complaint of the reader stands at its end. -/
def message : Rejection → String
  | lengthLimitExceeded => "length limit exceeded"
  | bodyTooLarge complaint => "Failed to buffer the request body: " ++ complaint
  | notJson => "Expected request with `Content-Type: application/json`"
  | malformedJson complaint => "Failed to parse the request body as JSON: " ++ complaint
  | unfitJson complaint =>
    "Failed to deserialize the JSON body into the target type: " ++ complaint
  | unreadableQuery complaint => "Failed to deserialize query string: " ++ complaint

end Rejection

/-- What went wrong with a request. -/
inductive Failure where
  | api (e : ApiError)
  | rejected (r : Rejection)
  deriving DecidableEq, Repr

namespace Response

/-- A header with a text. -/
def header (name value : String) : String × List UInt8 := (name, Utf8.encode value)

def ofStatus (status : Nat) : Response := ⟨status, [], .empty⟩

def json (status : Nat) (j : Json) : Response :=
  ⟨status, [header "content-type" "application/json"], .json j⟩

def text (status : Nat) (s : String) : Response :=
  ⟨status, [header "content-type" "text/plain; charset=utf-8"], .text s⟩

def ofError (e : ApiError) : Response := json e.status e.body

def ofFailure : Failure → Response
  | .api e => ofError e
  | .rejected r => text r.status r.message

def withHeaders (r : Response) (headers : Headers) : Response :=
  { r with headers := r.headers ++ headers }

/-- A response with nothing left of its body. -/
def withoutBody (r : Response) : Response := { r with body := .empty }

end Response

end Gatehouse.Service
