/-
# The state of the service

The service keeps workflows and enrollments, sets timers for paused enrollments, has a clock, and
works with collaborators that have a state of their own. An operation of the service, an `Op`,
gives a value or a fault, and what it has done to the state by then stays done.

Key definitions: `Service.Config`, `Service.State`, `Service.Op`.
-/
import Cadence.Enrollment.Rows
import Cadence.Timer.Timers
import Cadence.Workflow.Files

namespace Cadence
namespace Service

open Time

/-- How a service works: its default time zone, how long it waits for a collaborator, the greatest
time it sets a timer for, and the id it gives to reports. -/
structure Config where
  defaultTimezone : String
  timeout : Binary64
  maxDelayMs : Int
  reportId : String
  deriving Repr, DecidableEq, Inhabited

/-- What a service has. `world` is the state of its collaborators, `made` the number of enrollments
that have been given an id. -/
structure State (σ : Type) where
  files : Workflow.Files
  rows : Enrollment.Rows
  timers : Timers
  clock : Moment
  made : Nat
  world : σ
  deriving Repr, DecidableEq, Inhabited

/-- A service at the start of its work. -/
def State.fresh {σ : Type} (clock : Moment) (world : σ) : State σ :=
  ⟨[], [], .stopped, clock, 0, world⟩

/-- An operation of a service. -/
abbrev Op (σ α : Type) : Type := ExceptT Fault (StateM (State σ)) α

variable {σ α : Type}

/-- An operation carried out in a state. -/
def Op.run (op : Op σ α) (s : State σ) : Except Fault α × State σ := ExceptT.run op s

/-- The time in universal time. -/
def universalNow : Op σ Moment := return (← get).clock.universal

/-- A value, or the fault that there is none. -/
def orFault (r : Except Fault α) : Op σ α :=
  match r with
  | .ok a => pure a
  | .error f => throw f

/-- Puts rows in place of the rows, unless there is a fault. -/
def putRows (r : Except Fault Enrollment.Rows) : Op σ Unit := do
  let rows ← orFault r
  modify fun s => { s with rows }

/-- Sets the timer of an enrollment: the milliseconds that its delay comes to. -/
def armTimer (c : Config) (id : String) (delay : Delay) : Op σ Int := do
  let s ← get
  let (ms, timers) ← orFault (s.timers.arm s.clock.universal c.maxDelayMs id delay)
  set { s with timers }
  return ms

/-- Cancels the timer of an enrollment: whether there was one. -/
def cancelTimer (id : String) : Op σ Bool := do
  let s ← get
  let (found, timers) := s.timers.cancel id
  set { s with timers }
  return found

/-- The enrollment with an id. -/
def findEnrollment (id : String) : Op σ Enrollment := do
  match ← orFault ((← get).rows.get id) with
  | some e => return e
  | none => throw (.noEnrollment id)

/-- The latest version of a workflow. -/
def latestWorkflow (id : String) : Op σ Workflow.Record := do
  let s ← get
  match ← orFault (s.files.load s.clock.universal id) with
  | some w => return w
  | none => throw (.noWorkflow id)

/-- Saves a workflow as a new version: the record as it is stored. -/
def saveWorkflow (r : Workflow.Record) : Op σ Workflow.Record := do
  let s ← get
  let (r, files) ← orFault (s.files.save s.clock.universal r)
  set { s with files }
  return r

/-- Deletes all versions of a workflow: whether there were any. -/
def dropWorkflow (id : String) : Op σ Bool := do
  let s ← get
  let (found, files) ← orFault (s.files.delete id)
  set { s with files }
  return found

end Service
end Cadence
