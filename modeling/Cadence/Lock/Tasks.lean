/-
# Tasks that hold locks

To watch locks by key at work, a `Task` comes for the lock of a key, says when it is in, waits at a
gate of its own, and says when it is out. A gate may be opened, or made to fail, at any time; a task
that finds its gate passed already does not stop there. A task may also be cancelled, at its gate or
while it waits for the lock.

Key definitions: `Task`, `Tasks`, `Tasks.enter`, `Tasks.openGate`, `Tasks.cancel`.
-/
import Cadence.Lock.Table

namespace Cadence

/-- How far a task is. -/
inductive Stage where
  | waiting
  | inside
  | gone
  deriving Repr, DecidableEq, Inhabited

/-- A task that comes for the lock of a key. -/
structure Task where
  name : String
  key : String
  lock : Nat
  stage : Stage
  gateOpen : Bool
  deriving Repr, DecidableEq, Inhabited

/-- The locks, and all tasks that ever came, by their numbers. -/
structure Tasks where
  locks : LockTable
  tasks : List Task
  deriving Repr, DecidableEq, Inhabited

namespace Tasks

/-- Nobody has come yet. -/
def none : Tasks := ⟨.empty, []⟩

/-- The task with a number under a function. -/
def modify (t : Tasks) (number : Nat) (f : Task → Task) : Tasks :=
  { t with tasks := t.tasks.modify number f }

/-- The number of the last task with a name, and the task. -/
def find? (t : Tasks) (name : String) : Option (Nat × Task) :=
  (t.tasks.zipIdx.reverse.find? (·.1.name = name)).map fun (task, i) => (i, task)

/-- A task has got its lock and goes on as far as it can, and after it those that get the lock in
turn. What they say, in order; each task goes at most once. -/
def proceed : Nat → Nat → Tasks → List String × Tasks
  | 0, _, t => ([], t)
  | steps + 1, number, t =>
    match t.tasks[number]? with
    | .none => ([], t)
    | some task =>
      if !task.gateOpen then
        ([task.name ++ " in"], t.modify number fun task => { task with stage := .inside })
      else
        let t := t.modify number fun task => { task with stage := .gone }
        let (next, locks) := t.locks.leave task.key
        let said := [task.name ++ " in", task.name ++ " out"]
        match next with
        | .none => (said, { t with locks })
        | some next =>
          let (more, t) := proceed steps next { t with locks }
          (said ++ more, t)

/-- The task that holds a lock goes, and those that get the lock go on. What they say. -/
def goOut (t : Tasks) (number : Nat) (task : Task) : List String × Tasks :=
  let t := t.modify number fun task => { task with stage := .gone, gateOpen := true }
  let (next, locks) := t.locks.leave task.key
  let t := { t with locks }
  match next with
  | .none => ([task.name ++ " out"], t)
  | some next =>
    let (more, t) := proceed t.tasks.length next t
    ((task.name ++ " out") :: more, t)

/-- A task comes for the lock of a key. -/
def enter (t : Tasks) (name key : String) : List String × Tasks :=
  let number := t.tasks.length
  let ((lock, granted), locks) := t.locks.enter key number
  let stage := if granted then Stage.inside else .waiting
  (if granted then [name ++ " in"] else [], ⟨locks, t.tasks ++ [⟨name, key, lock, stage, false⟩]⟩)

/-- The gate of a task opens, or fails. A task inside goes; one that waits will not stop there. -/
def openGate (t : Tasks) (name : String) : List String × Tasks :=
  match t.find? name with
  | .none => ([], t)
  | some (number, task) =>
    match task.stage with
    | .inside => goOut t number task
    | .waiting => ([], t.modify number fun task => { task with gateOpen := true })
    | .gone => ([], t)

/-- A task is cancelled: one inside goes, one that waits goes silently. -/
def cancel (t : Tasks) (name : String) : List String × Tasks :=
  match t.find? name with
  | .none => ([], t)
  | some (number, task) =>
    match task.stage with
    | .inside => goOut t number task
    | .waiting =>
      ([], ⟨t.locks.abandon task.key number,
        (t.modify number fun task => { task with stage := .gone }).tasks⟩)
    | .gone => ([], t)

end Tasks
end Cadence
