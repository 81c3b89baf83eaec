import Gatehouse.Cache.Command

/-! A cache in memory.  Commands of the kinds in `failing` are refused and change nothing. -/

namespace Gatehouse.Cache

/-- A map from keys to values, with each key at most once. -/
abbrev Entries := List (String × String)

/-- Puts a value under a key in place of any other. -/
def put {α : Type} (key : String) (value : α) (entries : List (String × α)) : List (String × α) :=
  (key, value) :: entries.filter (·.1 != key)

def erase {α : Type} (key : String) (entries : List (String × α)) : List (String × α) :=
  entries.filter (·.1 != key)

theorem lookup_filter_of_ne {α : Type} {key other : String} (h : other ≠ key)
    (entries : List (String × α)) :
    (entries.filter (·.1 != key)).lookup other = entries.lookup other := by
  induction entries with
  | nil => rfl
  | cons e entries ih =>
    obtain ⟨k, v⟩ := e
    rw [List.filter_cons]
    by_cases he : k = key
    · subst he
      have hne : (other == k) = false := by simpa using h
      rw [if_neg (by simp), ih, List.lookup_cons, hne]
    · rw [if_pos (by simpa using he), List.lookup_cons, List.lookup_cons, ih]

theorem lookup_filter_self {α : Type} (key : String) (entries : List (String × α)) :
    (entries.filter (·.1 != key)).lookup key = none := by
  induction entries with
  | nil => rfl
  | cons e entries ih =>
    obtain ⟨k, v⟩ := e
    rw [List.filter_cons]
    by_cases he : k = key
    · rw [if_neg (by simp [he]), ih]
    · have hne : (key == k) = false := by simpa using Ne.symm he
      rw [if_pos (by simpa using he), List.lookup_cons, hne, ih]

@[simp] theorem lookup_put_self {α : Type} (key : String) (value : α)
    (entries : List (String × α)) : (put key value entries).lookup key = some value := by
  simp [put]

theorem lookup_put_of_ne {α : Type} {key other : String} (h : other ≠ key) (value : α)
    (entries : List (String × α)) :
    (put key value entries).lookup other = entries.lookup other := by
  have hne : (other == key) = false := by simpa using h
  rw [put, List.lookup_cons, hne, lookup_filter_of_ne h]

@[simp] theorem lookup_erase_self {α : Type} (key : String) (entries : List (String × α)) :
    (erase key entries).lookup key = none :=
  lookup_filter_self key entries

theorem lookup_erase_of_ne {α : Type} {key other : String} (h : other ≠ key)
    (entries : List (String × α)) : (erase key entries).lookup other = entries.lookup other :=
  lookup_filter_of_ne h entries

/-- The content of the cache, the seconds that were given with the last `set` of each key, and the
kinds of commands that fail.  The seconds are only recorded: no time passes here, and an entry never
expires but stays until a command replaces it or takes it out. -/
structure Store where
  entries : Entries
  ttls : List (String × UInt64)
  failing : List Verb
  deriving Repr

namespace Store

/-- A cache with some content in which every command works. -/
def ofEntries (entries : Entries) : Store := ⟨entries, [], []⟩

/-- What a command gives back and leaves behind if it works. -/
def execute : (c : Command) → Store → c.Result × Store
  | .get key, s => (s.entries.lookup key, s)
  | .set key value ttl, s =>
    ((), { s with entries := put key value s.entries, ttls := put key ttl s.ttls })
  | .delete key, s => ((), { s with entries := erase key s.entries })

def perform (c : Command) (s : Store) : c.Answer × Store :=
  if s.failing.contains c.verb then (.error (.command "refused"), s)
  else match execute c s with
    | (result, s) => (.ok result, s)

end Store

end Gatehouse.Cache
