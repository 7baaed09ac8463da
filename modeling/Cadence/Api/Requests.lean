/-
# Bodies of requests

The documents that clients send and get besides leads, workflows and enrollments.

Key definitions: `Api.NewWorkflow`, `Api.WorkflowChange`, `Api.NewEnrollment`,
`Api.Trial`, `Api.Advancement`, `Api.Health`.
-/
import Cadence.Enrollment.Basic
import Cadence.Workflow.Record

namespace Cadence
namespace Api

open Decode

/-- A workflow to be made. -/
structure NewWorkflow where
  name : String
  description : Option String
  status : Workflow.Status
  definition : Workflow.Definition
  deriving Repr, DecidableEq, Inhabited

/-- What is to change about a workflow; what is missing stays. -/
structure WorkflowChange where
  name : Option String
  description : Option String
  status : Option Workflow.Status
  definition : Option Workflow.Definition
  deriving Repr, DecidableEq, Inhabited

/-- A lead to be enrolled. -/
structure NewEnrollment where
  lead : Lead
  source : String
  overrides : Overrides
  deriving Repr, DecidableEq, Inhabited

/-- A lead to try a workflow out with. -/
structure Trial where
  lead : Lead
  overrides : Overrides
  deriving Repr, DecidableEq, Inhabited

/-- How an enrollment is to be advanced: whether outside the send window too, and with what news
about the lead. -/
structure Advancement where
  ignoreSendWindow : Option Bool
  lead : Option Lead
  deriving Repr, DecidableEq, Inhabited

/-- How the service is. -/
structure Health where
  status : String
  service : String
  connectorMode : String
  armedTimers : Int
  deriving Repr, DecidableEq, Inhabited

namespace NewWorkflow

/-- A request as a document. -/
def toJson (r : NewWorkflow) : Json :=
  .obj [("name", .str r.name), ("description", .ofText? r.description),
    ("status", .str r.status.name), ("definition", r.definition.toJson)]

/-- A request as a document, if it can be written. -/
def toJson? (r : NewWorkflow) : Option Json :=
  if r.definition.isShallow then some r.toJson else none

/-- Reads a request. -/
def decode : Json → Checked NewWorkflow := record "WorkflowCreateRequest" fun f =>
  NewWorkflow.mk <$> field ["name"] text f <*> fieldOr ["description"] none (nullable text) f <*>
    fieldOr ["status"] .draft Workflow.Status.decode f <*>
    fieldOr ["definition"] .empty Workflow.Definition.decode f

end NewWorkflow

namespace WorkflowChange

/-- A request as a document. -/
def toJson (r : WorkflowChange) : Json :=
  .obj [("name", .ofText? r.name), ("description", .ofText? r.description),
    ("status", .ofText? (r.status.map Workflow.Status.name)),
    ("definition", (r.definition.map Workflow.Definition.toJson).getD .null)]

/-- A request as a document, if it can be written. -/
def toJson? (r : WorkflowChange) : Option Json :=
  if (r.definition.map Workflow.Definition.isShallow).getD true then some r.toJson else none

/-- Reads a request. -/
def decode : Json → Checked WorkflowChange := record "WorkflowUpdateRequest" fun f =>
  WorkflowChange.mk <$> fieldOr ["name"] none (nullable text) f <*>
    fieldOr ["description"] none (nullable text) f <*>
    fieldOr ["status"] none (nullable Workflow.Status.decode) f <*>
    fieldOr ["definition"] none (nullable Workflow.Definition.decode) f

end WorkflowChange

namespace NewEnrollment

/-- A request as a document. -/
def toJson (r : NewEnrollment) : Json :=
  .obj [("lead", r.lead.toJson), ("source", .str r.source), ("overrides", r.overrides.toJson)]

/-- Reads a request. -/
def decode : Json → Checked NewEnrollment := record "EnrollRequest" fun f =>
  NewEnrollment.mk <$> fieldOr ["lead"] .unknown Lead.decode f <*>
    fieldOr ["source"] Enrollment.liveSource text f <*>
    fieldOr ["overrides"] .none Overrides.decode f

end NewEnrollment

namespace Trial

/-- A request as a document. -/
def toJson (r : Trial) : Json :=
  .obj [("lead", r.lead.toJson), ("overrides", r.overrides.toJson)]

/-- Reads a request. -/
def decode : Json → Checked Trial := record "PreviewRequest" fun f =>
  Trial.mk <$> fieldOr ["lead"] .unknown Lead.decode f <*>
    fieldOr ["overrides"] .none Overrides.decode f

end Trial

namespace Advancement

/-- A request as a document. -/
def toJson (r : Advancement) : Json :=
  .obj [("ignoreSendWindow", (r.ignoreSendWindow.map Json.bool).getD .null),
    ("lead", (r.lead.map Lead.toJson).getD .null)]

/-- Reads a request. -/
def decode : Json → Checked Advancement := record "AdvanceRequest" fun f =>
  Advancement.mk <$> fieldOr (spellings "ignoreSendWindow") none (nullable truth) f <*>
    fieldOr ["lead"] none (nullable Lead.decode) f

end Advancement

namespace Health

/-- How the service is, as a document. -/
def toJson (h : Health) : Json :=
  .obj [("status", .str h.status), ("service", .str h.service),
    ("connectorMode", .str h.connectorMode), ("armedTimers", .int h.armedTimers)]

/-- The name of the service. -/
def serviceName : String := "LeadFlow Backend"

/-- Reads how the service is. -/
def decode : Json → Checked Health := record "HealthResponse" fun f =>
  Health.mk <$> field ["status"] text f <*> fieldOr ["service"] serviceName text f <*>
    fieldOr (spellings "connectorMode") "simulator" text f <*>
    fieldOr (spellings "armedTimers") 0 integer f

end Health
end Api
end Cadence
