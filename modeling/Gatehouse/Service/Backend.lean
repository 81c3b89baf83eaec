import Gatehouse.Cache.Store
import Gatehouse.Dialogue
import Gatehouse.Service.Database

/-! What stands behind the service: a database and a cache.  The service asks them one question at a
time.  A `Backend` answers from a script for the database and from a cache in memory, and keeps a
record of what it was asked. -/

namespace Gatehouse.Service

open Cache

inductive Call where
  | statement (s : Statement)
  | cache (c : Command)

abbrev Call.Answer : Call → Type
  | .statement _ => Reply
  | .cache c => c.Answer

/-- A computation of the service. -/
abbrev Action := Dialogue Call Call.Answer

def query (s : Statement) : Action Reply := .question (Call.statement s)

/-- Sends a command to the cache. -/
def send (c : Command) : Action c.Answer := .question (Call.cache c)

/-- What the database does with a statement: it replies, or it never does. -/
inductive ScriptItem where
  | reply (r : Reply)
  | silent

/-- A database that works off a script, a cache, and what they were asked so far. -/
structure Backend where
  script : List ScriptItem
  store : Store
  statements : List Statement
  commands : List Command

namespace Backend

/-- A backend that has not been asked anything. -/
def start (script : List ScriptItem) (store : Store) : Backend := ⟨script, store, [], []⟩

/-- The backend with nothing on record. -/
def forget (b : Backend) : Backend := { b with statements := [], commands := [] }

/-- Takes the next item off the script.  At its end statements find nothing. -/
def next (b : Backend) : ScriptItem × Backend :=
  match b.script with
  | [] => (.reply (.ok (.ofAffected 0)), b)
  | item :: script => (item, { b with script })

def respond : (q : Call) → Backend → Option q.Answer × Backend
  | .statement s, b =>
    match b.next with
    | (.reply r, b) => (some r, { b with statements := b.statements ++ [s] })
    | (.silent, b) => (none, { b with statements := b.statements ++ [s] })
  | .cache c, b =>
    match b.store.perform c with
    | (answer, store) => (some answer, { b with store, commands := b.commands ++ [c] })

end Backend

end Gatehouse.Service
