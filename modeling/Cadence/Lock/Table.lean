/-
# Locks by key

A `LockTable` gives every key a lock of its own, on which tasks wait in the order in which they
came. A lock is made when the first task comes for its key and forgotten when the last one goes,
so the locks that are registered are those of the keys that somebody holds or waits for. Locks are
numbered as they are made; all tasks that come for a key meet the same lock until it is forgotten.

Key definitions: `LockTable`, `LockTable.enter`, `LockTable.leave`, `LockTable.abandon`.
-/
namespace Cadence

/-- The lock of a key: its number, how many tasks hold it or wait for it, the task that holds it,
and those that wait. -/
structure LockTable.Entry where
  key : String
  lock : Nat
  users : Nat
  holder : Option Nat
  waiters : List Nat
  deriving Repr, DecidableEq, Inhabited

/-- The locks that are registered, and the number of the next one. -/
structure LockTable where
  entries : List LockTable.Entry
  fresh : Nat
  deriving Repr, DecidableEq, Inhabited

namespace LockTable

/-- No locks. -/
def empty : LockTable := ⟨[], 0⟩

/-- The lock of a key. -/
def get? (l : LockTable) (key : String) : Option Entry := l.entries.find? (·.key = key)

/-- Whether a task holds the lock of a key. -/
def isLocked (l : LockTable) (key : String) : Bool :=
  ((l.get? key).bind Entry.holder).isSome

/-- How many locks are registered. -/
def size (l : LockTable) : Nat := l.entries.length

/-- The locks with one entry in place of that of its key, or without it if nobody uses it. -/
def put (l : LockTable) (e : Entry) : LockTable :=
  { l with entries := l.entries.filterMap fun old =>
      if old.key = e.key then if e.users = 0 then none else some e else some old }

/-- A task comes for a key: the number of the key's lock, and whether the task holds it at once. -/
def enter (l : LockTable) (key : String) (task : Nat) : (Nat × Bool) × LockTable :=
  match l.get? key with
  | none => ((l.fresh, true), ⟨l.entries ++ [⟨key, l.fresh, 1, some task, []⟩], l.fresh + 1⟩)
  | some e =>
    match e.holder with
    | none => ((e.lock, true), l.put { e with users := e.users + 1, holder := some task })
    | some _ =>
      ((e.lock, false), l.put { e with users := e.users + 1, waiters := e.waiters ++ [task] })

/-- The task that holds the lock of a key goes: the task that holds it from then on. -/
def leave (l : LockTable) (key : String) : Option Nat × LockTable :=
  match l.get? key with
  | none => (none, l)
  | some e =>
    (e.waiters.head?, l.put { e with
      users := e.users - 1
      holder := e.waiters.head?
      waiters := e.waiters.tail })

/-- A task that waits for the lock of a key goes without having held it. -/
def abandon (l : LockTable) (key : String) (task : Nat) : LockTable :=
  match l.get? key with
  | none => l
  | some e =>
    l.put { e with
      users := e.users - 1
      waiters := e.waiters.erase task }

end LockTable
end Cadence
