/-
# The two tables of enrollments

The database keeps an enrollment in two tables. One has a row for every enrollment, without steps;
its key is the id. The other has an entry for every step; its key is the id of the enrollment with a
number, and its enrollment must be in the first table. New steps get the numbers that follow the
greatest one of their enrollment. Removing an enrollment removes its steps.

An operation is a transaction: one that fails leaves both tables as they were.

Key definitions: `Tables`, `Tables.lastNumber`, `Tables.addSteps`, `Tables.create`, `Tables.get`,
`Tables.recordRun`, `Tables.setLead`, `Tables.delete`.
-/
import Cadence.Enrollment.Rows

namespace Cadence
namespace Enrollment

open Time

/-- A step in the table of steps. -/
structure NumberedStep where
  enrollmentId : String
  number : Nat
  step : StepRow
  deriving Repr, DecidableEq, Inhabited

/-- A row without its steps. -/
def Row.head (r : Row) : Row := { r with steps := [] }

/-- A row with steps in place of its own. -/
def Row.withSteps (r : Row) (steps : List StepRow) : Row := { r with steps }

/-- A row with the status and the times that a run leaves. -/
def Row.ended (status : Status) (completedAt resumeAt : Option Moment) (r : Row) : Row :=
  { r with
    status
    completedAt := completedAt.map Moment.iso
    resumeAt := resumeAt.map Moment.iso }

/-- The rows of enrollments without their steps, and the steps. -/
structure Tables where
  heads : Rows
  entries : List NumberedStep
  deriving Repr, DecidableEq, Inhabited

namespace Tables

/-- No enrollments. -/
def empty : Tables := ⟨[], []⟩

/-- The steps of an enrollment, as they stand. -/
def entriesOf (t : Tables) (id : String) : List NumberedStep :=
  t.entries.filter (·.enrollmentId = id)

/-- The greatest number of a step of an enrollment; 0 where it has none. -/
def lastNumber (t : Tables) (id : String) : Nat :=
  (t.entriesOf id).foldl (fun greatest e => max greatest e.number) 0

/-- Adds a step. Its enrollment must be there, and its number must be new. -/
def addStep (t : Tables) (e : NumberedStep) : Except Fault Tables :=
  if (t.heads.find? e.enrollmentId).isNone then .error .constraint
  else if (t.entriesOf e.enrollmentId).any (·.number = e.number) then .error .constraint
  else .ok { t with entries := t.entries ++ [e] }

/-- Adds steps to an enrollment, numbered on from its last one. -/
def addSteps (t : Tables) (id : String) (steps : List Step) : Except Fault Tables :=
  (steps.zipIdx (t.lastNumber id + 1)).foldlM
    (fun t (step, number) => t.addStep ⟨id, number, StepRow.ofStep step⟩) t

/-- Keeps a new enrollment with its steps. -/
def create (t : Tables) (e : Enrollment) : Except Fault Tables :=
  if (t.heads.find? e.id).isSome then .error .constraint
  else { t with heads := t.heads ++ [(Row.ofEnrollment e).head] }.addSteps e.id e.steps

/-- The steps of an enrollment, in the order of their numbers. -/
def stepsOf (t : Tables) (id : String) : List StepRow :=
  ((t.entriesOf id).mergeSort fun a b => a.number ≤ b.number).map (·.step)

/-- The enrollment with an id. -/
def get (t : Tables) (id : String) : Except Fault (Option Enrollment) :=
  match t.heads.find? id with
  | none => .ok none
  | some r => return some (← (r.withSteps (t.stepsOf id)).read)

/-- Sets the status and the times of an enrollment and adds the steps of a run. The name of the
status must be that of a status. -/
def recordRun (t : Tables) (id : String) (steps : List Step) (status : String)
    (completedAt resumeAt : Option Moment) : Except Fault Tables :=
  if (t.heads.find? id).isNone then .error (.noEntry id)
  else match Status.names.lookup status with
    | none => .error .constraint
    | some status =>
      { t with heads := t.heads.modify id (Row.ended status completedAt resumeAt) }.addSteps id steps

/-- Sets the lead of an enrollment: whether there is one, and the tables. -/
def setLead (t : Tables) (id : String) (lead : Lead) : Bool × Tables :=
  ((t.heads.find? id).isSome,
    { t with heads := t.heads.modify id fun r => { r with lead := keptFields lead.toJson } })

/-- Removes an enrollment and its steps: whether there was one, and the tables. -/
def delete (t : Tables) (id : String) : Bool × Tables :=
  ((t.heads.find? id).isSome,
    ⟨t.heads.filter (·.id ≠ id), t.entries.filter (·.enrollmentId ≠ id)⟩)

end Tables
end Enrollment
end Cadence
