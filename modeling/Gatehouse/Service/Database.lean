import Gatehouse.Error
import Gatehouse.Roles.Lookup
import Gatehouse.Users.Row

/-! The statements that the service runs on the database and what it makes of the replies.  A write
that hits a unique constraint is a conflict; every other failure is a fault of the database.  Only a
lookup of roles has a time limit of its own, and it is silent if the limit is up first. -/

namespace Gatehouse.Service

open Identity Users Roles

inductive Statement where
  | listUsers (name : Option String) (limit offset : Int)
  | createUser (name email : String)
  | getUser (user : UserId)
  | updateUser (user : UserId) (name email : Option String)
  | deleteUser (user : UserId)
  | rolesOf (user : UserId)
  deriving DecidableEq, Repr

namespace Statement

def name : Statement → String
  | listUsers .. => "users.list"
  | createUser .. => "users.create"
  | getUser _ => "users.get"
  | updateUser .. => "users.update"
  | deleteUser _ => "users.delete"
  | rolesOf _ => "roles.list"

/-- A user's number as a parameter. -/
def userParameter (user : UserId) : Json := .int user.toNat

/-- A text as a parameter; none is null. -/
def textParameter (s : Option String) : Json := (s.map Json.text).getD .null

def parameters : Statement → List Json
  | listUsers name limit offset => [textParameter name, .int limit, .int offset]
  | createUser name email => [.text name, .text email]
  | getUser user => [userParameter user]
  | updateUser user name email => [userParameter user, textParameter name, textParameter email]
  | deleteUser user => [userParameter user]
  | rolesOf user => [userParameter user]

end Statement

/-- A record that a statement gives back: a user, or the name of a role. -/
inductive Record where
  | user (row : UserRow)
  | role (name : String)
  deriving DecidableEq, Repr

/-- What a statement gives back, and how many rows it changed. -/
structure Outcome where
  records : List Record
  affected : Nat
  deriving DecidableEq, Repr

namespace Outcome

/-- Records that were found or changed. -/
def ofRecords (records : List Record) : Outcome := ⟨records, records.length⟩

/-- Rows that were changed and not given back. -/
def ofAffected (n : Nat) : Outcome := ⟨[], n⟩

def users (o : Outcome) : List UserRow :=
  o.records.filterMap fun
    | .user row => some row
    | .role _ => none

def names (o : Outcome) : List String :=
  o.records.map fun
    | .user row => row.name
    | .role name => name

end Outcome

/-- What went wrong with a statement. -/
inductive Fault where
  /-- The database reports an error, with a code if it has one. -/
  | reported (code : Option String) (text : String)
  /-- The statement did not get through, or the reply could not be read. -/
  | unreported (text : String)
  /-- No reply came within the time that the one who asks waits for it. -/
  | unanswered
  deriving DecidableEq, Repr

/-- An error of the database that is known by its code alone. -/
instance : Coe (Option String) Fault := ⟨(.reported · "")⟩

/-- Why a statement failed. -/
structure StatementError where
  fault : Fault
  deriving DecidableEq, Repr

abbrev Reply := Except StatementError Outcome

/-- The code of a violated unique constraint. -/
def uniqueViolation : String := "23505"

namespace StatementError

/-- The code of an error that the database reports. -/
def code? (e : StatementError) : Option String :=
  match e.fault with
  | .reported code _ => code
  | .unreported _ | .unanswered => none

/-- What a failed write comes to. -/
def onWrite (e : StatementError) : RepoError :=
  if e.code? == some uniqueViolation then .conflict else .database

end StatementError

/-- What a fault of the database is answered with. -/
def errorOfRepo : RepoError → ApiError
  | .conflict => .conflict
  | .database => .internal

namespace Reply

def users (r : Reply) : Except RepoError (List UserRow) :=
  (r.map Outcome.users).mapError fun _ => .database

/-- The first user in a reply, if there is one. -/
def user? (r : Reply) : Except RepoError (Option UserRow) := r.users.map List.head?

/-- The user that was written, if there is one. -/
def written? (r : Reply) : Except RepoError (Option UserRow) :=
  (r.map fun o => o.users.head?).mapError StatementError.onWrite

/-- The user that was created.  That none comes back is a fault of the database. -/
def created (r : Reply) : Except RepoError UserRow :=
  match r.written? with
  | .ok (some row) => .ok row
  | .ok none => .error .database
  | .error e => .error e

def deleted (r : Reply) : Except RepoError Bool :=
  (r.map fun o => decide (0 < o.affected)).mapError fun _ => .database

def roles (r : Reply) : LookupAnswer :=
  match r with
  | .ok o => .roles o.names
  | .error ⟨.unanswered⟩ => .silent
  | .error _ => .failed .database

end Reply

end Gatehouse.Service
