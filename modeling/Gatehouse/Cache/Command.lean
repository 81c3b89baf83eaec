/-! The commands of the cache, a map from texts to texts whose entries expire.  Every command may
fail. -/

namespace Gatehouse.Cache

inductive Verb where
  | get
  | set
  | delete
  deriving DecidableEq, Repr

inductive Command where
  | get (key : String)
  | set (key value : String) (ttl : UInt64)
  | delete (key : String)
  deriving DecidableEq, Repr

/-- Why the cache did not do what it was asked to. -/
inductive CacheError where
  | connection (detail : String)
  | command (detail : String)
  | value (detail : String)
  deriving DecidableEq, Repr

def CacheError.message : CacheError → String
  | .connection detail => s!"cache connection error: {detail}"
  | .command detail => s!"cache command error: {detail}"
  | .value detail => s!"cache value error: {detail}"

namespace Command

def verb : Command → Verb
  | get _ => .get
  | set .. => .set
  | delete _ => .delete

/-- What a command gives back: the entry that was looked for, or nothing. -/
def Result : Command → Type
  | get _ => Option String
  | set .. => Unit
  | delete _ => Unit

abbrev Answer (c : Command) : Type := Except CacheError c.Result

/-- A command in the words that are sent.  An entry lives for at least one second. -/
def words : Command → List String
  | get key => ["GET", key]
  | set key value ttl => ["SET", key, value, "EX", toString (max ttl.toNat 1)]
  | delete key => ["DEL", key]

end Command

end Gatehouse.Cache
