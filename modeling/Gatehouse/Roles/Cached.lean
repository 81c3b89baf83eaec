import Gatehouse.Cache.Command
import Gatehouse.Dialogue
import Gatehouse.Json.Basic
import Gatehouse.Json.Reader
import Gatehouse.Roles.Lookup

/-! Looking up roles through a cache.  A list of role names in the cache is the answer; otherwise
the source is asked and its list is put into the cache.  No failure of the cache fails a lookup. -/

namespace Gatehouse.Roles

open Identity Cache

variable {Question : Type} {Answer : Question → Type}

/-- The key of a user's entry. -/
def cacheKey (user : UserId) : String := s!"roles:user:{user.toNat}"

/-- The text of a user's entry. -/
def cacheValue (names : List String) : String := (Json.texts names).compact

/-- The roles in the answer of the cache, if it gave an entry that is a list of texts. -/
def cachedRoles (answer : Except CacheError (Option String)) : Option (List String) :=
  match answer with
  | .ok (some text) => Json.texts? text
  | _ => none

/-- Looks up roles through a cache to which `send` brings commands. -/
def lookupCached (send : (c : Command) → Dialogue Question Answer c.Answer)
    (source : UserId → Dialogue Question Answer LookupAnswer) (ttl : UInt64) (user : UserId) :
    Dialogue Question Answer LookupAnswer := do
  match cachedRoles (← send (.get (cacheKey user))) with
  | some names => return .roles names
  | none =>
    let answer ← source user
    match answer with
    | .roles names =>
      let _ ← send (.set (cacheKey user) (cacheValue names) ttl)
      return answer
    | _ => return answer

/-- Takes a user's entry out of the cache. -/
def invalidate (send : (c : Command) → Dialogue Question Answer c.Answer) (user : UserId) :
    Dialogue Question Answer Unit := do
  let _ ← send (.delete (cacheKey user))
  return ()

end Gatehouse.Roles
