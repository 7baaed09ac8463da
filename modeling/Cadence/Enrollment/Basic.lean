/-
# Enrollments

An `Enrollment` is one lead's way through one workflow: the lead and the overrides it runs with, all
steps so far, and the time at which it is due while it is paused. A `Snapshot` adds where it stands.

Key definitions: `Enrollment`, `Enrollment.isTrial`, `Enrollment.Snapshot`.
-/
import Cadence.Lead.Basic
import Cadence.Run.Report

namespace Cadence

open Decode Time

namespace Enrollment

/-- Where an enrollment is on its way. -/
inductive Status where
  | inProgress
  | success
  | failed
  deriving Repr, DecidableEq, Inhabited

namespace Status

/-- The name of a status in documents. -/
def name : Status → String
  | inProgress => "in-progress"
  | success => "success"
  | failed => "failed"

/-- The names of the statuses, each with its status. -/
def names : List (String × Status) :=
  [(inProgress.name, inProgress), (success.name, success), (failed.name, failed)]

end Status
end Enrollment

/-- One lead's way through one workflow. -/
structure Enrollment where
  id : String
  workflowId : String
  source : String
  lead : Lead
  overrides : Overrides
  status : Enrollment.Status
  steps : List Step
  createdAt : Moment
  completedAt : Option Moment
  resumeAt : Option Moment
  deriving Repr, DecidableEq, Inhabited

namespace Enrollment

/-- The source of enrollments of real leads. -/
def liveSource : String := "live"

/-- The source of enrollments made for trying out a workflow. -/
def trialSource : String := "manual_test"

/-- Whether messages may be sent at any time: only where a workflow is tried out. -/
def isTrial (e : Enrollment) : Bool := e.source = trialSource

/-- The members of an enrollment's document. -/
def fields (e : Enrollment) : Json.Fields :=
  [("id", .str e.id), ("workflowId", .str e.workflowId), ("source", .str e.source),
    ("lead", e.lead.toJson), ("overrides", e.overrides.toJson), ("status", .str e.status.name),
    ("steps", .arr (e.steps.map Step.toJson)), ("createdAt", .str e.createdAt.wire),
    ("completedAt", Report.momentJson e.completedAt), ("resumeAt", Report.momentJson e.resumeAt)]

/-- An enrollment as a document. -/
def toJson (e : Enrollment) : Json := .obj e.fields

/-- Whether the outputs of the steps can be written. -/
def isShallow (e : Enrollment) : Bool := e.steps.all Step.isShallow

/-- An enrollment as a document, if it can be written. -/
def toJson? (e : Enrollment) : Option Json := if e.isShallow then some e.toJson else none

/-- Reads the members of an enrollment; one without an id has `id`, and one that does not give its
time was made `now`. -/
def decodeFields (now : Moment) (id : String) (f : Json.Fields) : Checked Enrollment :=
  Enrollment.mk <$> fieldOr ["id"] id text f <*> field (spellings "workflowId") text f <*>
    fieldOr ["source"] liveSource text f <*> fieldOr ["lead"] .unknown Lead.decode f <*>
    fieldOr ["overrides"] .none Overrides.decode f <*>
    fieldOr ["status"] .inProgress (choiceOf Status.names) f <*>
    fieldOr ["steps"] [] (listOf (Step.decode now)) f <*>
    fieldOr (spellings "createdAt") now moment f <*>
    fieldOr (spellings "completedAt") none (nullable moment) f <*>
    fieldOr (spellings "resumeAt") none (nullable moment) f

/-- Reads an enrollment. -/
def decode (now : Moment) (id : String) : Json → Checked Enrollment :=
  record "Enrollment" (decodeFields now id)

/-- Whether a document asks for a new id, being a record without one. -/
def needsId : Json → Bool
  | .obj f => !Json.Fields.has f "id"
  | _ => false

/-- An enrollment with where it stands: the node it is at, whether it is paused, and whether a timer
is set for it. -/
structure Snapshot where
  enrollment : Enrollment
  currentNode : Option String
  currentType : Option String
  isPaused : Bool
  timerArmed : Bool
  deriving Repr, DecidableEq, Inhabited

namespace Snapshot

/-- A snapshot as a document. -/
def toJson (s : Snapshot) : Json :=
  .obj (s.enrollment.fields ++ [("currentNodeId", .ofText? s.currentNode),
    ("currentNodeType", .ofText? s.currentType), ("paused", .bool s.isPaused),
    ("timerArmed", .bool s.timerArmed)])

/-- A snapshot as a document, if it can be written. -/
def toJson? (s : Snapshot) : Option Json :=
  if s.enrollment.isShallow then some s.toJson else none

/-- Reads a snapshot. -/
def decode (now : Moment) (id : String) : Json → Checked Snapshot :=
  record "EnrollmentSnapshot" fun f =>
    Snapshot.mk <$> decodeFields now id f <*>
      fieldOr (spellings "currentNodeId") none (nullable text) f <*>
      fieldOr (spellings "currentNodeType") none (nullable text) f <*>
      fieldOr ["paused"] false truth f <*> fieldOr (spellings "timerArmed") false truth f

end Snapshot
end Enrollment
end Cadence
