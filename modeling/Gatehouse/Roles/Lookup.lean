import Gatehouse.Identity.Principal
import Gatehouse.Time.Duration

/-! Looking up the roles of a user.  The source of roles gives them, fails, or never answers; who
waits for it waits for a limited time. -/

namespace Gatehouse

open Identity Time

/-- Why the database did not do what it was asked to. -/
inductive RepoError where
  | database
  | conflict
  deriving DecidableEq, Repr

def RepoError.message : RepoError → String
  | .database => "db error"
  | .conflict => "conflict"

namespace Roles

/-- How the source of roles answers. -/
inductive LookupAnswer where
  | roles (names : List String)
  | failed (e : RepoError)
  | silent
  deriving DecidableEq, Repr

/-- Why there are no roles. -/
inductive LookupError where
  | repo (e : RepoError)
  | timedOut (limit : Duration)
  deriving DecidableEq, Repr

def LookupError.message : LookupError → String
  | .repo e => e.message
  | .timedOut limit => s!"role lookup timed out after {limit.text}"

/-- What an answer comes to for one who waits for a limited time. -/
def LookupAnswer.within (limit : Duration) : LookupAnswer → Except LookupError (List String)
  | .roles names => .ok names
  | .failed e => .error (.repo e)
  | .silent => .error (.timedOut limit)

end Roles

end Gatehouse
