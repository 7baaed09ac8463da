/-
# Answering requests

`serve` reads a request into a call, performs the call on the service and answers. What the
service does until a fault arises stays done. Faults that clients can mend are told to them: a
workflow or an enrollment that is not there, and a definition that cannot be run, which only
drafts may have. Any other fault, and an answer that cannot be sent, is an internal error.

Key definitions: `Api.State`, `Api.Answer`, `Api.perform`, `Api.serve`.
-/
import Cadence.Api.Call
import Cadence.Service.Operations
import Cadence.Settings

namespace Cadence
namespace Api

/-- What the server has: the service, and the number of workflows that have been given an id. -/
structure State (σ : Type) where
  service : Service.State σ
  made : Nat
  deriving Repr, DecidableEq, Inhabited

/-- What comes of performing a call. -/
inductive Content where
  | document (j : Json)
  | text (s : String)
  deriving Repr, DecidableEq, Inhabited

/-- An answer to a request, with its status code. -/
inductive Answer where
  | document (status : Nat) (j : Json)
  | text (status : Nat) (s : String)
  | invalid (issues : List Issue)
  deriving Repr, DecidableEq, Inhabited

namespace Answer

/-- The status code of an answer. -/
def status : Answer → Nat
  | document status _ => status
  | text status _ => status
  | invalid _ => 422

/-- An answer that gives a detail. -/
def detail (status : Nat) (text : String) : Answer :=
  .document status (.obj [("detail", .str text)])

/-- The answer to a request that could not be dealt with. -/
def internalError : Answer := .text 500 "Internal Server Error"

/-- A document as an answer, if it can be sent. -/
def sent (status : Nat) (j : Json) : Answer :=
  if j.isSendable then .document status j else internalError

/-- The answer to a request that is no call. -/
def ofRefusal : Refusal → Answer
  | .unknownPath => detail 404 "Not Found"
  | .wrongMethod => detail 405 "Method Not Allowed"
  | .unreadable => detail 400 "There was an error parsing the body"
  | .invalid issues => .invalid issues
  | .unspeakable => internalError

/-- The answer to a call that a fault kept from being performed. -/
def ofFault : Fault → Answer
  | .flawed flaw =>
    sent 400 (.obj [("message", .str flaw.message), ("nodeId", .ofText? flaw.node?)])
  | .noWorkflow _ => detail 404 "Workflow not found"
  | .noEnrollment _ => detail 404 "Enrollment not found"
  | _ => internalError

/-- The answer to a call that was performed. -/
def ofContent : Content → Answer
  | .document j => sent 200 j
  | .text s => .text 200 s

end Answer

variable {σ α : Type}

open Service (Op orFault)

/-- A document that was written, unless it is nested too deep. -/
def orTooDeep (j : Option Json) : Op σ Json := orFault (Fault.ofWritten j)

/-- The definition of a workflow with a status must be one that can be run, unless it is a draft. -/
def requireRunnable (status : Workflow.Status) (d : Workflow.Definition) : Op σ Unit := do
  if status ≠ .draft then
    let _ ← orFault (d.linearize.mapError Fault.flawed)

/-- Checks a definition and puts it into a line. -/
def validate (definition : Json.Fields) : Op σ Json := do
  let chain ← orFault
    ((Workflow.Definition.linearizeDocument (.obj definition)).mapError Fault.flawed)
  return .obj [("valid", .bool true), ("chain", chain.toJson)]

/-- Makes a workflow with an id. -/
def makeWorkflow (id : String) (r : NewWorkflow) : Op σ Json := do
  let now ← Service.universalNow
  let w ← Service.saveWorkflow ⟨id, r.name, r.description, r.status, r.definition, 1, now, now⟩
  return w.toJson

/-- A workflow with the changes that are asked for. -/
def WorkflowChange.applyTo (r : WorkflowChange) (w : Workflow.Record) : Workflow.Record :=
  { w with
    name := r.name.getD w.name
    description := r.description.or w.description
    status := r.status.getD w.status
    definition := r.definition.getD w.definition }

/-- Changes a workflow, which makes a new version. -/
def changeWorkflow (id : String) (r : WorkflowChange) : Op σ Json := do
  let w := r.applyTo (← Service.latestWorkflow id)
  requireRunnable w.status w.definition
  return (← Service.saveWorkflow w).toJson

/-- All workflows, those changed last first. -/
def allWorkflows : Op σ Json := do
  let s ← get
  let list ← orFault (s.files.latestRecords s.clock.universal)
  return .arr (list.map Workflow.Record.toJson)

/-- Deletes a workflow, which must be there. -/
def dropWorkflow (id : String) : Op σ Json := do
  if !(← Service.dropWorkflow id) then throw (.noWorkflow id)
  return .obj [("status", .str "deleted"), ("workflow_id", .str id)]

/-- Runs a workflow once without stopping at waits and at any time of the day. -/
def tryOut (c : Service.Config) (k : Collaborators σ) (id : String) (r : Trial) :
    Op σ Json := do
  let w ← Service.latestWorkflow id
  let plan := Service.preview c k.handsOver w.definition r.lead r.overrides (← Service.universalNow)
  let report ← orFault (← Service.carryOut k plan)
  let _ ← orTooDeep report.toJson?
  return .obj (report.fields ++ [("markdown", .str (← orFault (report.markdown w.name)))])

/-- Enrolls a lead in a workflow. -/
def enroll (c : Service.Config) (k : Collaborators σ) (id : String) (r : NewEnrollment) :
    Op σ Json := do
  let (e, report) ← Service.enroll c k id r.lead r.source r.overrides
  return .obj [("enrollment", ← orTooDeep e.toJson?), ("report", ← orTooDeep report.toJson?)]

/-- The enrollments in a workflow, those made last first. -/
def enrollmentsOf (id : String) (limit : Int) : Op σ Json := do
  let _ ← Service.latestWorkflow id
  let list ← orFault ((← get).rows.ofWorkflow id limit)
  return .arr (← list.mapM fun e => orTooDeep e.toJson?)

/-- Shows where an enrollment stands. -/
def showEnrollment (id : String) : Op σ Json := do orTooDeep (← Service.describe id).toJson?

/-- Advances all enrollments that are due. -/
def wakeDue (c : Service.Config) (k : Collaborators σ) : Op σ Json := do
  let resumed ← Service.wakeDue c k (← get).clock
  return .obj [("resumed", Json.ofTexts resumed)]

/-- Advances an enrollment. -/
def advance (c : Service.Config) (k : Collaborators σ) (id : String) (r : Advancement) :
    Op σ Json := do
  let report ← Service.advance c k id r.ignoreSendWindow r.lead
  let snapshot ← Service.describe id
  return .obj [("enrollment", ← orTooDeep snapshot.toJson?),
    ("report", ← orTooDeep report.toJson?)]

/-- Deletes an enrollment, which must be there. -/
def dropEnrollment (id : String) : Op σ Json := do
  if !(← Service.delete id) then throw (.noEnrollment id)
  return .obj [("status", .str "deleted"), ("enrollment_id", .str id)]

/-- How the service is. -/
def health : Op σ Json := do
  let armed := (← get).timers.jobs.length
  return (Health.mk "ok" Health.serviceName Mode.simulator.name armed).toJson

/-- Work of the server. -/
abbrev Work (σ α : Type) : Type := ExceptT Fault (StateM (State σ)) α

/-- An operation of the service as work of the server. -/
def onService (op : Op σ α) : Work σ α := ExceptT.mk fun s =>
  let (result, service) := op.run s.service
  (result, { s with service })

/-- A new id for a workflow. -/
def freshId : Work σ String := do
  let s ← get
  set { s with made := s.made + 1 }
  return "workflow-" ++ toString (s.made + 1)

/-- Performs a call. -/
def perform (c : Service.Config) (k : Collaborators σ) : Call → Work σ Content
  | .health => .document <$> onService health
  | .validate definition => .document <$> onService (validate definition)
  | .makeWorkflow r => do
    onService (requireRunnable r.status r.definition)
    let id ← freshId
    .document <$> onService (makeWorkflow id r)
  | .changeWorkflow id r => .document <$> onService (changeWorkflow id r)
  | .allWorkflows => .document <$> onService allWorkflows
  | .showWorkflow id =>
    (.document ∘ Workflow.Record.toJson) <$> onService (Service.latestWorkflow id)
  | .dropWorkflow id => .document <$> onService (dropWorkflow id)
  | .tryOut id r => .document <$> onService (tryOut c k id r)
  | .enroll id r => .document <$> onService (enroll c k id r)
  | .enrollmentsOf id limit => .document <$> onService (enrollmentsOf id limit)
  | .wakeDue => .document <$> onService (wakeDue c k)
  | .showEnrollment id => .document <$> onService (showEnrollment id)
  | .report id => .text <$> onService (Service.reportText id)
  | .advance id r => .document <$> onService (advance c k id r)
  | .dropEnrollment id => .document <$> onService (dropEnrollment id)

/-- Answers a request. -/
def serve (c : Service.Config) (k : Collaborators σ) (r : Request) (s : State σ) :
    Answer × State σ :=
  match Call.read r with
  | .error refusal => (.ofRefusal refusal, s)
  | .ok call =>
    match ExceptT.run (perform c k call) s with
    | (.ok content, s) => (.ofContent content, s)
    | (.error fault, s) => (.ofFault fault, s)

end Api
end Cadence
