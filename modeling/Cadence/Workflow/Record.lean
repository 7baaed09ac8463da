/-
# Stored workflows

A workflow is stored under its id with a name, a status and a version number. Only drafts may have a
definition that cannot be run.

Key definitions: `Workflow.Status`, `Workflow.Record`.
-/
import Cadence.Decode.Moment
import Cadence.Time.Iso
import Cadence.Workflow.Definition

namespace Cadence
namespace Workflow

open Decode Time

/-- Whether a workflow is being written, in use or retired. -/
inductive Status where
  | draft
  | active
  | inactive
  deriving Repr, DecidableEq, Inhabited

namespace Status

/-- The name of a status in documents. -/
def name : Status → String
  | draft => "draft"
  | active => "active"
  | inactive => "inactive"

/-- Reads a status. -/
def decode : Json → Checked Status :=
  choiceOf [(draft.name, draft), (active.name, active), (inactive.name, inactive)]

end Status

/-- A version of a stored workflow. -/
structure Record where
  id : String
  name : String
  description : Option String
  status : Status
  definition : Definition
  version : Int
  createdAt : Moment
  updatedAt : Moment
  deriving Repr, DecidableEq, Inhabited

namespace Record

/-- A record as a document. -/
def toJson (r : Record) : Json :=
  .obj [("id", .str r.id), ("name", .str r.name), ("description", .ofText? r.description),
    ("status", .str r.status.name), ("definition", r.definition.toJson),
    ("version", .int r.version), ("createdAt", .str r.createdAt.wire),
    ("updatedAt", .str r.updatedAt.wire)]

/-- A record as a document, if it can be written. -/
def toJson? (r : Record) : Option Json := if r.definition.isShallow then some r.toJson else none

/-- Reads a record; times that it does not give are `now`. -/
def decode (now : Moment) : Json → Checked Record := record "WorkflowRecord" fun f =>
  Record.mk <$> field ["id"] text f <*> field ["name"] text f <*>
    fieldOr ["description"] none (nullable text) f <*> fieldOr ["status"] .draft Status.decode f <*>
    fieldOr ["definition"] .empty Definition.decode f <*> fieldOr ["version"] 1 integer f <*>
    fieldOr (spellings "createdAt") now moment f <*> fieldOr (spellings "updatedAt") now moment f

end Record
end Workflow
end Cadence
