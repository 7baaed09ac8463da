/-
# Advancing an enrollment

Advancing runs an enrollment from where it stands and records what came of it. News about the lead
are stored first. A workflow that can no longer be run fails the enrollment, and a chain that is
complete completes it, in both cases without a step. Otherwise the chain is run from the resume
point; a failed or completed run ends the enrollment, and a paused one sets its due time and its
timer. A wait that is still pending adds no further step.

Advancing has two parts, so that others may work while collaborators are waited for: `begin_`
leads up to a plan of deliveries, and `conclude` records the report that the plan came to.

Key definitions: `Service.begin_`, `Service.conclude`, `Service.advance`.
-/
import Cadence.Run.Workflow
import Cadence.Service.State

namespace Cadence
namespace Service

open Time

/-- How far advancing gets before collaborators are asked. -/
inductive Begun where
  | finished (report : Report)
  | running (enrollment : Enrollment) (now : Moment) (plan : Plan (Except Fault Report))

/-- A report without steps. -/
def emptyReport (c : Config) (at_ : Moment) : Report :=
  { Report.opening c.reportId at_ with completedAt := some at_ }

variable {σ : Type}

/-- Records steps and a status; the timer of an enrollment without a due time is cancelled. -/
def recordRun (id : String) (steps : List Step) (status : Enrollment.Status)
    (completedAt resumeAt : Option Moment) : Op σ Unit := do
  putRows ((← get).rows.recordRun id steps status.name completedAt resumeAt)
  if resumeAt.isNone then
    let _ ← cancelTimer id

/-- The lead with news about it, normalized. -/
def mergedLead (lead news : Lead) : Lead := (lead.update news).normalized

/-- The enrollment with an id, with news about its lead stored. -/
def getUpdated (id : String) (news : Option Lead) : Op σ Enrollment := do
  let e ← findEnrollment id
  match news with
  | none => return e
  | some news =>
    let lead := mergedLead e.lead news
    modify fun s => { s with rows := (s.rows.setLead id lead).2 }
    return { e with lead }

/-- How an enrollment's run is set up. -/
def runOptions (c : Config) (e : Enrollment) (w : Workflow.Record) (p : Resumption)
    (ignore : Option Bool) (clock : Moment) : RunOptions :=
  { id := c.reportId
    stamp := clock.universal
    lead := e.lead
    overrides := e.overrides
    start := p.node
    pauseAtWait := true
    ignoreSendWindow := ignore.getD e.isTrial
    now := clock
    resumeAt := p.due
    defaultTimezone := c.defaultTimezone
    timeout := c.timeout
    sendWindow := w.definition.settings.sendWindow }

/-- Advances an enrollment up to its first delivery. -/
def begin_ (c : Config) (handsOver : Bool) (id : String) (ignore : Option Bool)
    (news : Option Lead) : Op σ Begun := do
  let e ← getUpdated id news
  let w ← latestWorkflow e.workflowId
  let clock := (← get).clock
  match w.definition.linearize with
  | .error flaw =>
    recordRun e.id [] .failed (some clock) none
    return .finished (flawedReport c.reportId clock.universal flaw)
  | .ok chain =>
    let p ← orFault (resumption chain e.steps)
    if p.node.isNone then
      recordRun e.id [] .success (some (e.completedAt.getD clock)) none
      return .finished (emptyReport c clock.universal)
    let options := runOptions c e w p ignore clock
    return .running e clock (Runnable.run handsOver (.chain chain) options)

/-- Whether a report says only that an enrollment still waits where it waited before. -/
def stillWaits (e : Enrollment) (r : Report) : Bool :=
  match r.isPaused, r.steps, e.steps.getLast? with
  | true, [s], some last => last.isPaused && last.nodeId = s.nodeId
  | _, _, _ => false

/-- When an enrollment is due whose run paused, in universal time. -/
def dueTime (now : Moment) : Option Due → Except Fault Moment
  | none => .ok now
  | some (.at m) =>
    match m.assumeUtc.toUtc with
    | some u => .ok u
    | none => .error .overflow
  | some (.value _) => .error .noPart

/-- Records the report of a run that began at a time. -/
def conclude (c : Config) (e : Enrollment) (now : Moment) (r : Report) : Op σ Report := do
  let steps := if stillWaits e r then [] else r.steps
  if r.status = .failed then
    recordRun e.id steps .failed (some now) none
  else if r.isPaused then
    let due ← orFault (dueTime now r.resumeAt)
    recordRun e.id steps .inProgress none (some due)
    let _ ← armTimer c e.id (.until_ due (← get).clock)
  else
    recordRun e.id steps .success (some now) none
  return r

/-- Carries a plan out with collaborators. -/
def carryOut {α : Type} (k : Collaborators σ) (plan : Plan α) : Op σ α := do
  let s ← get
  let (a, world) := plan.run k s.world
  set { s with world }
  return a

/-- Runs an enrollment from where it stands and records what came of it. -/
def advance (c : Config) (k : Collaborators σ) (id : String) (ignore : Option Bool)
    (news : Option Lead) : Op σ Report := do
  match ← begin_ c k.handsOver id ignore news with
  | .finished r => return r
  | .running e now plan => conclude c e now (← orFault (← carryOut k plan))

end Service
end Cadence
