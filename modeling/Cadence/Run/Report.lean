/-
# Reports

A `Report` sums up one run over a chain: the steps, whether the run failed or paused and where, and
when it is to be resumed. A due time comes from the output of a step; it is a moment, or whatever
value stands there in its place.

Key definitions: `Due`, `Report`.
-/
import Cadence.Json.Display
import Cadence.Run.Step

namespace Cadence

open Decode Time

/-- When a paused run is due: a moment, or a value that a step gives in place of one. -/
inductive Due where
  | at (moment : Moment)
  | value (j : Json)
  deriving Repr, DecidableEq, Inhabited

namespace Due

/-- A due time as a document. -/
def toJson : Due → Json
  | .at m => .str m.wire
  | .value j => j.finiteOnly

/-- Whether a due time can be written. -/
def isShallow : Due → Bool
  | .at _ => true
  | .value j => j.isShallow

/-- A due time in a report. -/
def display : Due → String
  | .at m => m.spaced
  | .value j => j.display

end Due

/-- What made a run fail, and at which node. -/
structure Complaint where
  message : String
  node : Option String
  deriving Repr, DecidableEq, Inhabited

namespace Complaint

/-- A complaint as a document. -/
def toJson (c : Complaint) : Json :=
  .obj [("message", .str c.message), ("nodeId", .ofText? c.node)]

/-- Reads a complaint. -/
def decode : Json → Checked Complaint := record "DefinitionError" fun f =>
  Complaint.mk <$> field ["message"] text f <*>
    fieldOr (spellings "nodeId") none (nullable text) f

end Complaint

/-- The summary of one run. -/
structure Report where
  executionId : String
  status : Outcome
  steps : List Step
  error : Option Complaint
  isPaused : Bool
  pausedNode : Option String
  resumeAt : Option Due
  startedAt : Moment
  completedAt : Option Moment
  deriving Repr, DecidableEq, Inhabited

namespace Report

/-- A moment of a document that may be missing. -/
def momentJson (m : Option Moment) : Json := .ofText? (m.map Moment.wire)

/-- The members of a report's document. -/
def fields (r : Report) : Json.Fields :=
  [("executionId", .str r.executionId), ("status", .str r.status.name),
    ("steps", .arr (r.steps.map Step.toJson)),
    ("error", (r.error.map Complaint.toJson).getD .null), ("paused", .bool r.isPaused),
    ("pausedNodeId", .ofText? r.pausedNode), ("resumeAt", (r.resumeAt.map Due.toJson).getD .null),
    ("startedAt", .str r.startedAt.wire), ("completedAt", momentJson r.completedAt)]

/-- A report as a document. -/
def toJson (r : Report) : Json := .obj r.fields

/-- Whether the values of the steps' outputs and the due time can be written. -/
def isShallow (r : Report) : Bool :=
  r.steps.all Step.isShallow && (r.resumeAt.map Due.isShallow).getD true

/-- A report as a document, if it can be written. -/
def toJson? (r : Report) : Option Json := if r.isShallow then some r.toJson else none

/-- Reads a report; one that does not give its id has `id`, and times not given are `now`. -/
def decode (now : Moment) (id : String) : Json → Checked Report := record "ExecutionReport" fun f =>
  Report.mk <$> fieldOr (spellings "executionId") id text f <*>
    fieldOr ["status"] .success Outcome.decode f <*>
    fieldOr ["steps"] [] (listOf (Step.decode now)) f <*>
    fieldOr ["error"] none (nullable Complaint.decode) f <*> fieldOr ["paused"] false truth f <*>
    fieldOr (spellings "pausedNodeId") none (nullable text) f <*>
    fieldOr (spellings "resumeAt") none (nullable fun j => Due.at <$> moment j) f <*>
    fieldOr (spellings "startedAt") now moment f <*>
    fieldOr (spellings "completedAt") none (nullable moment) f

end Report
end Cadence
