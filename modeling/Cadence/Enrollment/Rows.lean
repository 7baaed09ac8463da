/-
# The store of enrollments

Every enrollment is a row with its steps. A row keeps the lead and the overrides as documents
without the members that are null, and all times as text; reading a row turns them back. Steps are
only ever added at the end. Times are ordered as texts, and rows whose texts are the same stand in
the order in which they were made.

An operation that fails leaves the rows as they were.

Key definitions: `Row`, `Rows.create`, `Rows.get`, `Rows.recordRun`, `Rows.setLead`,
`Rows.delete`, `Rows.ofWorkflow`, `Rows.scheduled`, `Rows.dueAt`.
-/
import Cadence.Enrollment.Basic
import Cadence.Fault

namespace Cadence
namespace Enrollment

open Time

/-- A step as it is kept. -/
structure StepRow where
  nodeId : String
  nodeType : String
  status : Outcome
  output : Json.Fields
  createdAt : String
  deriving Repr, DecidableEq, Inhabited

/-- An enrollment as it is kept. -/
structure Row where
  id : String
  workflowId : String
  source : String
  lead : Json.Fields
  overrides : Json.Fields
  status : Status
  createdAt : String
  completedAt : Option String
  resumeAt : Option String
  steps : List StepRow
  deriving Repr, DecidableEq, Inhabited

/-- The rows in the order in which they were made. -/
abbrev Rows := List Row

/-- The members of a document without those that are null. -/
def keptFields : Json → Json.Fields
  | .obj fields => Json.dropNulls fields
  | _ => []

/-- A step to keep. -/
def StepRow.ofStep (s : Step) : StepRow :=
  ⟨s.nodeId, s.nodeType, s.status, s.output, s.createdAt.iso⟩

/-- What was read, or the fault that it could not be. -/
def readBack {α : Type} : Checked α → Except Fault α
  | .ok a => .ok a
  | .bad i is => .error (.invalid (i :: is))

/-- A time that was kept as text. -/
def readTime (text : String) : Except Fault Moment := readBack (Decode.momentOfString text)

/-- The step that is kept in a row. -/
def StepRow.read (r : StepRow) : Except Fault Step :=
  return ⟨r.nodeId, r.nodeType, r.status, r.output, ← readTime r.createdAt⟩

namespace Row

/-- An enrollment to keep. -/
def ofEnrollment (e : Enrollment) : Row :=
  { id := e.id
    workflowId := e.workflowId
    source := e.source
    lead := keptFields e.lead.toJson
    overrides := keptFields e.overrides.toJson
    status := e.status
    createdAt := e.createdAt.iso
    completedAt := e.completedAt.map Moment.iso
    resumeAt := e.resumeAt.map Moment.iso
    steps := e.steps.map StepRow.ofStep }

/-- The enrollment that is kept in a row. -/
def read (r : Row) : Except Fault Enrollment := do
  let steps ← r.steps.mapM StepRow.read
  let lead ← readBack (Lead.decode (.obj r.lead))
  let overrides ← readBack (Overrides.decode (.obj r.overrides))
  return {
    id := r.id
    workflowId := r.workflowId
    source := r.source
    lead
    overrides
    status := r.status
    steps
    createdAt := ← readTime r.createdAt
    completedAt := ← r.completedAt.mapM readTime
    resumeAt := ← r.resumeAt.mapM readTime }

end Row

namespace Rows

/-- The row with an id. -/
def find? (rows : Rows) (id : String) : Option Row := List.find? (·.id = id) rows

/-- The rows with a function applied to the one with an id. -/
def modify (rows : Rows) (id : String) (f : Row → Row) : Rows :=
  rows.map fun r => if r.id = id then f r else r

/-- Keeps a new enrollment, whose id must be new. -/
def create (rows : Rows) (e : Enrollment) : Except Fault Rows :=
  if (rows.find? e.id).isSome then .error .constraint else .ok (rows ++ [Row.ofEnrollment e])

/-- The enrollment with an id. -/
def get (rows : Rows) (id : String) : Except Fault (Option Enrollment) :=
  match rows.find? id with
  | none => .ok none
  | some r => return some (← r.read)

/-- Adds the steps of a run to an enrollment and sets its status and times. The name of the status
must be that of a status. -/
def recordRun (rows : Rows) (id : String) (steps : List Step) (status : String)
    (completedAt resumeAt : Option Moment) : Except Fault Rows :=
  if (rows.find? id).isNone then .error (.noEntry id)
  else match Status.names.lookup status with
    | none => .error .constraint
    | some status => .ok <| rows.modify id fun r =>
      { r with
        status
        completedAt := completedAt.map Moment.iso
        resumeAt := resumeAt.map Moment.iso
        steps := r.steps ++ steps.map StepRow.ofStep }

/-- Sets the lead of an enrollment: whether there is one, and the rows. -/
def setLead (rows : Rows) (id : String) (lead : Lead) : Bool × Rows :=
  ((rows.find? id).isSome, rows.modify id fun r => { r with lead := keptFields lead.toJson })

/-- Removes an enrollment with its steps: whether there was one, and the rows. -/
def delete (rows : Rows) (id : String) : Bool × Rows :=
  ((rows.find? id).isSome, rows.filter (·.id ≠ id))

/-- Whether a limit is one that the store can take: a signed number of 64 bits. -/
def fitsLimit (limit : Int) : Bool := -Decode.wordHalf ≤ limit && limit < Decode.wordHalf

/-- The enrollments of a workflow, those made last first, at most `limit` of them unless it is
negative. -/
def ofWorkflow (rows : Rows) (workflowId : String) (limit : Int) :
    Except Fault (List Enrollment) :=
  if !fitsLimit limit then .error .overflow
  else
    let sorted := (rows.filter (·.workflowId = workflowId)).mergeSort fun a b =>
      b.createdAt ≤ a.createdAt
    (if limit < 0 then sorted else sorted.take limit.toNat).mapM Row.read

/-- The paused enrollments with the texts of their due times, those due first first. -/
def scheduledTexts (rows : Rows) : List (String × String) :=
  (rows.filterMap fun r => r.resumeAt.map (r.id, ·)).mergeSort fun a b => a.2 ≤ b.2

/-- The paused enrollments with their due times, those due first first. -/
def scheduled (rows : Rows) : Except Fault (List (String × Moment)) :=
  rows.scheduledTexts.mapM fun (id, text) =>
    match Moment.ofIso? text with
    | some m => .ok (id, m)
    | none => .error .malformed

/-- The paused enrollments that are due at a moment. -/
def dueAt (rows : Rows) (now : Moment) : Except Fault (List String) := do
  let due ← (← rows.scheduled).filterMapM fun (id, due) =>
    match due.le? now with
    | some true => .ok (some id)
    | some false => .ok none
    | none => .error .mismatched
  return due

end Rows
end Enrollment
end Cadence
