import Gatehouse.Token.Claims
import Gatehouse.Token.Parts

/-! Reading claims back.  The claims of a token are a record in which each field comes once; members
with other keys are passed over.  The values of the fields in order, as a list, stand for the record
as well. -/

namespace Gatehouse.Token

namespace Payload

def text? : Json → Option String
  | .text s => some s
  | _ => none

def texts? : Json → Option (List String)
  | .list items => items.mapM text?
  | _ => none

def seconds? : Json → Option Seconds
  | .int n => if (Int64.ofInt n).toInt = n then some (Int64.ofInt n) else none
  | _ => none

/-- The value under a key that comes once. -/
def field? (members : List (String × Json)) (key : String) : Option Json :=
  match members.filter (·.1 == key) with
  | [(_, value)] => some value
  | _ => none

/-- The values of fields in order. -/
def fields? (keys : List String) : Json → Option (List Json)
  | .record members => keys.mapM (field? members)
  | .list values => if values.length = keys.length then some values else none
  | _ => none

end Payload

open Payload

/-- What an access token says. -/
structure AccessPayload where
  sub : String
  email : String
  name : String
  roles : List String
  iat : Seconds
  nbf : Seconds
  exp : Seconds
  jti : String
  deriving DecidableEq, Repr

def AccessPayload.keys : List String :=
  ["sub", "email", "name", "roles", "iat", "nbf", "exp", "jti"]

def AccessPayload.ofJson? (j : Json) : Option AccessPayload := do
  match ← fields? keys j with
  | [sub, email, name, roles, iat, nbf, exp, jti] =>
    return {
      sub := ← text? sub
      email := ← text? email
      name := ← text? name
      roles := ← texts? roles
      iat := ← seconds? iat
      nbf := ← seconds? nbf
      exp := ← seconds? exp
      jti := ← text? jti
    }
  | _ => none

def AccessPayload.ofToken? (token : String) : Option AccessPayload :=
  (Parts.ofText? token).bind fun parts => ofJson? parts.claims

/-- What a refresh token says. -/
structure RefreshPayload where
  sub : String
  type : String
  iat : Seconds
  nbf : Seconds
  exp : Seconds
  jti : String
  deriving DecidableEq, Repr

def RefreshPayload.keys : List String := ["sub", "type", "iat", "nbf", "exp", "jti"]

def RefreshPayload.ofJson? (j : Json) : Option RefreshPayload := do
  match ← fields? keys j with
  | [sub, type, iat, nbf, exp, jti] =>
    return {
      sub := ← text? sub
      type := ← text? type
      iat := ← seconds? iat
      nbf := ← seconds? nbf
      exp := ← seconds? exp
      jti := ← text? jti
    }
  | _ => none

def RefreshPayload.ofToken? (token : String) : Option RefreshPayload :=
  (Parts.ofText? token).bind fun parts => ofJson? parts.claims

end Gatehouse.Token
