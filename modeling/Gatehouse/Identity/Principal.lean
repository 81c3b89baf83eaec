import Gatehouse.Text.Blank
import Gatehouse.Text.Decimal
import Gatehouse.Web.Header

/-! The identity of a caller.  The gateway in front of the service has authenticated the caller and
says who it is in two headers; `Principal.ofHeaders` reads them. -/

namespace Gatehouse.Identity

open Text Web

abbrev UserId := UInt32

/-- A caller.  The number 0 belongs to nobody. -/
structure Principal where
  id : UserId
  role : String
  deriving DecidableEq, Repr

/-- Why no identity could be read. -/
inductive IdentityError where
  | missing
  | malformed
  | missingRole
  | untrusted
  deriving DecidableEq, Repr

def IdentityError.message : IdentityError → String
  | .missing => "missing user id header"
  | .malformed => "invalid user id format"
  | .missingRole => "missing user role header"
  | .untrusted => "identity headers from untrusted peer"

def userIdHeader : String := "x-user-id"

def userRoleHeader : String := "x-user-role"

/-- The role that may do everything. -/
def adminRole : String := "admin"

/-- The role of a caller without a role header. -/
def userRole : String := "user"

/-- Reads the number of a user: digits and nothing else, below `2 ^ 32`. -/
def parseUserId (raw : String) : Except IdentityError UserId :=
  match Decimal.digits? raw.toList with
  | some n => if n < UInt32.size then .ok (UInt32.ofNat n) else .error .malformed
  | none => .error .malformed

namespace Principal

/-- The role in the headers: what is left of the first role header after trimming, if anything. -/
def roleOfHeaders (headers : Headers) : Option String :=
  (((headers.first? userRoleHeader).bind readable?).map trim).filter (!·.isEmpty)

def idOfHeaders (headers : Headers) : Except IdentityError UserId :=
  match headers.first? userIdHeader with
  | none => .error .missing
  | some value =>
    match readable? value with
    | none => .error .malformed
    | some raw => if raw.isEmpty then .error .missing else parseUserId raw

/-- The caller that the headers name.  Without a role the caller is a plain user, unless a role is
required. -/
def ofHeaders (headers : Headers) (requireRole : Bool) : Except IdentityError Principal := do
  let id ← idOfHeaders headers
  match roleOfHeaders headers with
  | some role => return ⟨id, role⟩
  | none => if requireRole then throw .missingRole else return ⟨id, userRole⟩

end Principal

end Gatehouse.Identity
