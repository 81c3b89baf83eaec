import Gatehouse.Cache.Store
import Gatehouse.Roles.Cached

/-! A bench for cached lookups: a cache in memory and a source of roles whose answer is given.
`Bench.step` carries out one operation on it. -/

namespace Gatehouse.Roles

open Identity Cache

inductive BenchQuestion where
  | source (user : UserId)
  | cache (c : Command)

abbrev BenchQuestion.Answer : BenchQuestion → Type
  | .source _ => LookupAnswer
  | .cache c => c.Answer

/-- The cache, the answers of the source, and how often the source was asked. -/
structure Bench where
  store : Store
  source : UserId → LookupAnswer
  calls : Nat

namespace Bench

inductive Operation where
  /-- A cached lookup. -/
  | lookup (user : UserId)
  /-- The removal of an entry. -/
  | invalidate (user : UserId)
  /-- A change of what the source answers. -/
  | answer (source : UserId → LookupAnswer)
  /-- An entry written by somebody else. -/
  | write (key value : String)
  /-- A change of the kinds of commands that fail. -/
  | fail (verbs : List Verb)

def respond : (q : BenchQuestion) → Bench → Option q.Answer × Bench
  | .source user, b => (some (b.source user), { b with calls := b.calls + 1 })
  | .cache c, b =>
    match b.store.perform c with
    | (answer, store) => (some answer, { b with store })

/-- Brings a command to the cache. -/
def send (c : Command) : Dialogue BenchQuestion BenchQuestion.Answer c.Answer :=
  .question (BenchQuestion.cache c)

def ask (user : UserId) : Dialogue BenchQuestion BenchQuestion.Answer LookupAnswer :=
  .question (BenchQuestion.source user)

/-- Carries out an operation; a lookup has an answer. -/
def step (ttl : UInt64) (op : Operation) (b : Bench) : Option LookupAnswer × Bench :=
  match op with
  | .lookup user => (lookupCached send ask ttl user).run respond b
  | .invalidate user => (none, ((invalidate send user).run respond b).2)
  | .answer source => (none, { b with source })
  | .write key value =>
    (none, { b with store := { b.store with entries := put key value b.store.entries } })
  | .fail verbs => (none, { b with store := { b.store with failing := verbs } })

/-- Carries out operations in order: the answer and the bench after each. -/
def steps (ttl : UInt64) : List Operation → Bench → List (Option LookupAnswer × Bench)
  | [], _ => []
  | op :: ops, b =>
    let after := b.step ttl op
    after :: steps ttl ops after.2

end Bench

end Gatehouse.Roles
