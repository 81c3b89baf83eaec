import Gatehouse.Json.Reader
import Gatehouse.Text.Blank
import Gatehouse.Text.Split

/-! Requests to create and to update a user.  Names have at most 100 octets and more than blank
characters; an e-mail address has at most 254 octets after trimming, something before its first at
sign and a full stop after it. -/

namespace Gatehouse.Users

open Text Json

/-- Why a request was refused. -/
inductive RequestError where
  | nameRequired
  | nameEmpty
  | nameTooLong
  | emailTooLong
  | emailInvalid
  deriving DecidableEq, Repr

def RequestError.message : RequestError → String
  | .nameRequired => "name is required"
  | .nameEmpty => "name cannot be empty"
  | .nameTooLong => "name must be <= 100 chars"
  | .emailTooLong => "email must be <= 254 chars"
  | .emailInvalid => "email is invalid"

def maxNameSize : Nat := 100

/-- The most octets that an e-mail address may have. -/
def maxEmailSize : Nat := 254

/-- Checks a name; `blankError` is the error for one with nothing but blank characters. -/
def checkName (blankError : RequestError) (name : String) : Except RequestError Unit :=
  if isBlankText name then .error blankError
  else if maxNameSize < name.utf8ByteSize then .error .nameTooLong
  else .ok ()

/-- Has the text something before its first at sign and a full stop after it? -/
def hasEmailForm (cs : List Char) : Bool :=
  match cutAt (· == '@') cs with
  | (front, some domain) => !front.isEmpty && domain.contains '.'
  | (_, none) => false

def checkEmail (email : String) : Except RequestError Unit :=
  let email := trim email
  if maxEmailSize < email.utf8ByteSize then .error .emailTooLong
  else if hasEmailForm email.toList then .ok ()
  else .error .emailInvalid

structure CreateUser where
  name : String
  email : String
  deriving DecidableEq, Repr

namespace CreateUser

def shape : Shape CreateUser where
  fields := [{ key := "name", kind := .text }, { key := "email", kind := .text }]
  build? members :=
    match members.lookup "name", members.lookup "email" with
    | some (.text name), some (.text email) => some ⟨name, email⟩
    | _, _ => none

def validate (r : CreateUser) : Except RequestError Unit := do
  checkName .nameRequired r.name
  checkEmail r.email

end CreateUser

/-- A request to update a user, which leaves alone what it does not give. -/
structure UpdateUser where
  name : Option String
  email : Option String
  deriving DecidableEq, Repr

namespace UpdateUser

/-- The text in a member, if there is one. -/
def textOf? : Option FieldValue → Option String
  | some (.text s) => some s
  | _ => none

def shape : Shape UpdateUser where
  fields := [{ key := "name", kind := .textOrNull }, { key := "email", kind := .textOrNull }]
  build? members := some ⟨textOf? (members.lookup "name"), textOf? (members.lookup "email")⟩

def validate (r : UpdateUser) : Except RequestError Unit := do
  if let some name := r.name then checkName .nameEmpty name
  if let some email := r.email then checkEmail email

end UpdateUser

end Gatehouse.Users
