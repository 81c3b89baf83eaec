import Gatehouse.Json.Reader
import Gatehouse.Text.Blank
import Gatehouse.Token.Issuer

/-! Requests to issue a pair of tokens.  Without roles they are looked up, and an empty list means a
token without roles. -/

namespace Gatehouse.Token

open Identity Text Json

structure IssueTokens where
  user : UserId
  email : String
  name : String
  roles : Option (List String)
  deriving DecidableEq, Repr

/-- Why a request was refused. -/
inductive RequestError where
  | userIdZero
  | nameRequired
  | emailRequired
  | blankRole
  deriving DecidableEq, Repr

def RequestError.message : RequestError → String
  | .userIdZero => "user_id must be positive"
  | .nameRequired => "name is required"
  | .emailRequired => "email is required"
  | .blankRole => "roles must not contain empty names"

namespace IssueTokens

/-- The roles in a member, if it is a list. -/
def rolesOf? : Option FieldValue → Option (List String)
  | some (.texts names) => some names
  | _ => none

def shape : Shape IssueTokens where
  fields := [{ key := "user_id", kind := .word32 }, { key := "email", kind := .text },
    { key := "name", kind := .text }, { key := "roles", kind := .textsOrNull, mayBeCut := true }]
  build? members :=
    match members.lookup "user_id", members.lookup "email", members.lookup "name" with
    | some (.number user), some (.text email), some (.text name) =>
      some ⟨user, email, name, rolesOf? (members.lookup "roles")⟩
    | _, _, _ => none

def validate (r : IssueTokens) : Except RequestError Unit :=
  if r.user == 0 then .error .userIdZero
  else if isBlankText r.name then .error .nameRequired
  else if isBlankText r.email then .error .emailRequired
  else if (r.roles.getD []).any isBlankText then .error .blankRole
  else .ok ()

/-- Whom the tokens are about. -/
def subject (r : IssueTokens) : Subject := ⟨r.user, trim r.email, trim r.name⟩

end IssueTokens

end Gatehouse.Token
