import Gatehouse.Json.Parser
import Gatehouse.Text.Split
import Gatehouse.Token.Signed

/-! Taking tokens apart.  `Parts.ofText?` reads the three parts of a token, and `verifies` says
whether the third one is the authentication code of the others. -/

namespace Gatehouse.Token

open Crypto Text

/-- What a token holds, and the text that its authentication code is about. -/
structure Parts where
  header : String
  claims : Json
  code : List UInt8
  input : String

namespace Parts

def ofText? (token : String) : Option Parts :=
  match cutAt (· == '.') token.toList with
  | (header, some rest) =>
    match cutAt (· == '.') rest with
    | (claims, some code) => do
      return {
        header := ← Utf8.decode? (← Base64Url.decode? header)
        claims := ← Json.parse? (← Base64Url.decode? claims)
        code := ← Base64Url.decode? code
        input := String.ofList header ++ "." ++ String.ofList claims
      }
    | _ => none
  | _ => none

/-- Is the authentication code the one for a secret? -/
def verifies (secret : String) (p : Parts) : Bool := signature secret p.input == p.code

end Parts

end Gatehouse.Token
