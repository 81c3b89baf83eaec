import Gatehouse.Crypto.Base64Url
import Gatehouse.Crypto.Hmac
import Gatehouse.Error
import Gatehouse.Text.Utf8

/-! Signed tokens.  A token has three parts between full stops, each in base64: the header, the
claims, and the authentication code of the first two parts under the secret. -/

namespace Gatehouse.Token

open Crypto Text

def header : Json := .record [("typ", .text "JWT"), ("alg", .text "HS256")]

/-- The part of a token for a JSON value. -/
def segment (j : Json) : String := Base64Url.encode (Utf8.encode j.compact)

/-- The first two parts of a token. -/
def signingInput (claims : Json) : String := segment header ++ "." ++ segment claims

/-- The authentication code of a text under a secret. -/
def signature (secret input : String) : List UInt8 :=
  Hmac.sha256 (Utf8.encode secret) (Utf8.encode input)

/-- The token that carries some claims. -/
def signed (secret : String) (claims : Json) : String :=
  let input := signingInput claims
  input ++ "." ++ Base64Url.encode (signature secret input)

/-- Signs claims.  There is no token for claims that have no JSON form. -/
def sign (secret : String) (claims : Option Json) : Except ApiError String :=
  match claims with
  | some claims => .ok (signed secret claims)
  | none => .error .signingFailed

end Gatehouse.Token
