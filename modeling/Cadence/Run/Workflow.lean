/-
# Running a workflow

`Runnable.run` runs a workflow once. The workflow is a chain, a definition, or a document that may
be a definition; unless it is a chain it is put into a line first and brings its own send window.
The lead is normalized for the run.

Key definitions: `Runnable`, `RunOptions`, `Runnable.run`.
-/
import Cadence.Run.Chain

namespace Cadence

open Time

/-- What can be run. -/
inductive Runnable where
  | chain (c : Chain)
  | definition (d : Workflow.Definition)
  | document (j : Json)
  deriving Repr, DecidableEq, Inhabited

/-- How a workflow is run. A run of a chain takes its send window from here. `resumeAt` is the due
time of the wait at the start of the run, if the run resumes there. -/
structure RunOptions where
  id : String
  stamp : Moment
  lead : Lead
  overrides : Overrides
  start : Option String
  pauseAtWait : Bool
  ignoreSendWindow : Bool
  now : Moment
  resumeAt : Option Due
  defaultTimezone : String
  timeout : Binary64
  sendWindow : Option Workflow.SendWindow
  deriving Repr, DecidableEq, Inhabited

namespace RunOptions

/-- A run at a time of a clock, with nothing else said. -/
def plain (id : String) (stamp : Moment) : RunOptions :=
  ⟨id, stamp, .unknown, .none, none, true, false, stamp, none, Workflow.homeZone,
    Context.defaultTimeout, none⟩

/-- The context of a run with a send window. -/
def context (o : RunOptions) (window : Option Workflow.SendWindow) : Context :=
  Context.settled
    { lead := o.lead.normalized
      overrides := o.overrides
      now := o.now
      stamp := o.stamp
      pauseAtWait := o.pauseAtWait
      ignoreSendWindow := o.ignoreSendWindow
      sendWindow := window
      defaultTimezone := o.defaultTimezone
      timeout := o.timeout
      lastChannel := none
      replay := o.start.bind fun node => o.resumeAt.map (⟨node, ·⟩) }

end RunOptions

namespace Runnable

/-- The chain of a workflow and the send window it brings. -/
def resolve (window : Option Workflow.SendWindow) :
    Runnable → Except Workflow.Flaw (Chain × Option Workflow.SendWindow)
  | chain c => .ok (c, window)
  | definition d => d.linearize.map fun c => (c, d.settings.sendWindow)
  | document j =>
    match Workflow.Definition.decode j with
    | .ok d => d.linearize.map fun c => (c, d.settings.sendWindow)
    | .bad issue _ => .error (.unreadable issue)

end Runnable

/-- Runs a workflow once. -/
def Runnable.run (handsOver : Bool) (w : Runnable) (o : RunOptions) : Plan (Except Fault Report) :=
  match w.resolve o.sendWindow with
  | .error flaw => .done (.ok (flawedReport o.id o.stamp flaw))
  | .ok (line, window) => line.runFrom handsOver o.id (o.context window) o.start

end Cadence
