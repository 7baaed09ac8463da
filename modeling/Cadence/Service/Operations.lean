/-
# Operations of the service

Leads are enrolled in workflows and advanced, by somebody or by a timer that rings. Timers live as
long as the service does; when a service starts it sets them again from the due times that are
stored, and a poll can advance everything that is due without them.

Key definitions: `Service.register`, `Service.enroll`, `Service.preview`, `Service.delete`,
`Service.describe`, `Service.reportText`, `Service.wakeDue`, `Service.start`, `Service.stop`,
`Service.tick`.
-/
import Cadence.Run.Markdown
import Cadence.Service.Advance

namespace Cadence
namespace Service

open Time

variable {σ : Type}

/-- A new id for an enrollment. -/
def freshId : Op σ String := do
  let s ← get
  set { s with made := s.made + 1 }
  return "enrollment-" ++ toString (s.made + 1)

/-- Makes an enrollment of a lead in a workflow, which must be one that can be run. Gives its id. -/
def register (workflowId : String) (lead : Lead) (source : String) (overrides : Overrides) :
    Op σ String := do
  let w ← latestWorkflow workflowId
  let _ ← orFault (w.definition.linearize.mapError Fault.flawed)
  let id ← freshId
  let e : Enrollment :=
    { id
      workflowId := w.id
      source
      lead := lead.normalized
      overrides
      status := .inProgress
      steps := []
      createdAt := ← universalNow
      completedAt := none
      resumeAt := none }
  putRows ((← get).rows.create e)
  return id

/-- Enrolls a lead in a workflow and runs it for the first time. -/
def enroll (c : Config) (k : Collaborators σ) (workflowId : String) (lead : Lead) (source : String)
    (overrides : Overrides) : Op σ (Enrollment × Report) := do
  let id ← register workflowId lead source overrides
  let report ← advance c k id none none
  return (← findEnrollment id, report)

/-- How a run is set up that shows what a lead would get: at any time of the day and without
stopping at waits. -/
def previewOptions (c : Config) (lead : Lead) (overrides : Overrides) (now : Moment) : RunOptions :=
  { RunOptions.plain c.reportId now with
    lead
    overrides
    pauseAtWait := false
    ignoreSendWindow := true
    defaultTimezone := c.defaultTimezone
    timeout := c.timeout }

/-- Runs a workflow once to show what a lead would get. Nothing is kept of it. -/
def preview (c : Config) (handsOver : Bool) (d : Workflow.Definition) (lead : Lead)
    (overrides : Overrides) (now : Moment) : Plan (Except Fault Report) :=
  Runnable.run handsOver (.definition d) (previewOptions c lead overrides now)

/-- Removes an enrollment and its timer: whether there was one. -/
def delete (id : String) : Op σ Bool := do
  let _ ← cancelTimer id
  let s ← get
  let (found, rows) := s.rows.delete id
  set { s with rows }
  return found

/-- Where an enrollment stands. -/
def describe (id : String) : Op σ Enrollment.Snapshot := do
  let e ← findEnrollment id
  let armed := (← get).timers.isArmed id
  match e.steps.getLast? with
  | none => return ⟨e, none, none, false, armed⟩
  | some last =>
    return ⟨e, some last.nodeId, some last.nodeType, last.isPaused && e.resumeAt.isSome, armed⟩

/-- The lines that say where an enrollment stopped. -/
def standingLines (s : Enrollment.Snapshot) : List String :=
  let node := "`" ++ s.currentNode.getD "None" ++ "`"
  if s.isPaused then
    ["**Paused at:** " ++ node ++ " until " ++ (s.enrollment.resumeAt.map Moment.iso).getD "None"]
  else if s.enrollment.status = .failed then ["**Failed at:** " ++ node]
  else []

/-- The history of an enrollment as text. -/
def reportText (id : String) : Op σ String := do
  let snapshot ← describe id
  let e := snapshot.enrollment
  let s ← get
  let title := match ← orFault (s.files.load s.clock.universal e.workflowId) with
    | some w => w.name
    | none => e.workflowId
  return "\n".intercalate <|
    ["# Enrollment Report: " ++ title, "", "**Enrollment ID:** `" ++ e.id ++ "`",
      "**Source:** " ++ e.source, "**Status:** " ++ e.status.name,
      "**Steps:** " ++ toString e.steps.length] ++
    standingLines snapshot ++ [""] ++ stepsTable e.steps

/-- Advances an enrollment because of its due time. One that is no longer there is left alone. -/
def resume (c : Config) (k : Collaborators σ) (id : String) : Op σ Unit :=
  tryCatch (do let _ ← advance c k id none none) fun
    | .noEnrollment _ => pure ()
    | fault => throw fault

/-- Cancels the timer of an enrollment and resumes it now. -/
def fire (c : Config) (k : Collaborators σ) (id : String) : Op σ Unit := do
  let _ ← cancelTimer id
  resume c k id

/-- Resumes enrollments in order. -/
def fireAll (c : Config) (k : Collaborators σ) : List String → Op σ Unit
  | [] => return
  | id :: rest => do
    fire c k id
    fireAll c k rest

/-- Resumes all enrollments that are due at a time. Gives their ids. -/
def wakeDue (c : Config) (k : Collaborators σ) (now : Moment) : Op σ (List String) := do
  let due ← orFault ((← get).rows.dueAt now)
  fireAll c k due
  return due

/-- Sets the timers of enrollments by their due times. -/
def armAll (c : Config) (now : Moment) : List (String × Moment) → Op σ Unit
  | [] => return
  | (id, due) :: rest => do
    let _ ← armTimer c id (.until_ due now)
    armAll c now rest

/-- Starts the timers and sets them for all paused enrollments. Gives their number. -/
def start (c : Config) : Op σ Nat := do
  modify fun s => { s with timers := s.timers.start }
  let s ← get
  let scheduled ← orFault s.rows.scheduled
  armAll c s.clock scheduled
  return scheduled.length

/-- Stops the timers and forgets them. -/
def stop : Op σ Unit := modify fun s => { s with timers := .stopped }

/-- Lets the timers ring that are due by the clock. Gives the ids of those that did; what goes wrong
with one does not keep the others from ringing. -/
def tick (c : Config) (k : Collaborators σ) : Op σ (List String) := do
  let s ← get
  let (ids, s) := Timers.ring State.timers (fun timers s => { s with timers })
    (fun id s => ((resume c k id).run s).2) s.clock.assumeUtc s
  set s
  return ids

end Service
end Cadence
