/-
# Running a chain

A run starts at the trigger or at a node of the chain and goes on until a step fails, a step pauses
or the chain ends. `Chain.runFrom` gives its report. `resumption` says from the steps of past runs
where the next one starts: at the node that failed, at the wait that paused, or after the last step
that succeeded.

A workflow whose definition cannot be put into a line is not run; its report carries the flaw.

Key definitions: `Resumption`, `resumption`, `runNodes`, `Chain.runFrom`, `flawedReport`.
-/
import Cadence.Run.Node

namespace Cadence

open Time

/-- Where the next run starts; no node means that the chain is complete. -/
structure Resumption where
  node : Option String
  due : Option Due
  deriving Repr, DecidableEq, Inhabited

/-- When a step says that it is due. A text must be a moment. -/
def Step.due? (s : Step) : Except Fault (Option Due) :=
  match s.get "resumeAt" with
  | .str text =>
    if text = "" then .ok none
    else match Moment.ofIso? text with
      | some m => .ok (some (.at m))
      | none => .error .malformed
  | j => .ok (j.truthy?.map Due.value)

/-- The id of the first node of a chain. -/
def Chain.firstId (c : Chain) : Option String := c.nodes.head?.map (·.id)

/-- Where the next run starts after some steps. -/
def resumption (c : Chain) (steps : List Step) : Except Fault Resumption :=
  match steps.getLast? with
  | none => .ok ⟨c.firstId, none⟩
  | some last =>
    if last.status = .failed then .ok ⟨some last.nodeId, none⟩
    else if last.isPaused then return ⟨some last.nodeId, ← last.due?⟩
    else
      match steps.reverse.find? fun s => s.status = .success && (c.indexOf? s.nodeId).isSome with
      | some s => .ok ⟨(c.after? s.nodeId).map (·.id), none⟩
      | none => .ok ⟨c.firstId, none⟩

/-- A report at its start. -/
def Report.opening (id : String) (startedAt : Moment) : Report :=
  ⟨id, .success, [], none, false, none, none, startedAt, none⟩

namespace Report

/-- A report with a further step, and whether the run stops there. -/
def push (r : Report) (n : Chain.Node) (s : Step) : Except Fault (Report × Bool) :=
  let r := { r with steps := r.steps ++ [s] }
  if s.status = .failed then
    let message := ((Json.Fields.get? s.output "error").getD (.str "Node failed")).display
    .ok ({ r with status := .failed, error := some ⟨message, some n.id⟩ }, true)
  else if s.isPaused then do
    .ok ({ r with isPaused := true, pausedNode := some n.id, resumeAt := ← s.due? }, true)
  else .ok (r, false)

/-- A report that ends with an error. -/
def failure (r : Report) (c : Complaint) (finish : Moment) : Report :=
  { r with status := .failed, error := some c, completedAt := some finish }

end Report

/-- Runs nodes in order, adding their steps to a report, until one fails or pauses. -/
def runNodes (handsOver : Bool) : Context → Report → List Chain.Node → Plan (Except Fault Report)
  | c, r, [] => .done (.ok { r with completedAt := some c.stamp })
  | c, r, n :: rest => do
    match ← runNode handsOver c n with
    | .error fault => return .error fault
    | .ok (s, c) =>
      match r.push n s with
      | .error fault => return .error fault
      | .ok (r, true) => return .ok { r with completedAt := some c.stamp }
      | .ok (r, false) => runNodes handsOver c r rest

/-- Runs a chain from a node, or from its trigger. -/
def Chain.runFrom (handsOver : Bool) (id : String) (chain : Chain) (c : Context)
    (start : Option String) :
    Plan (Except Fault Report) :=
  let opening := Report.opening id c.stamp
  match start with
  | none => runNodes handsOver c opening chain.nodes
  | some node =>
    match chain.indexOf? node with
    | some i => runNodes handsOver c opening (chain.nodes.drop i)
    | none =>
      let complaint := ⟨"Start node not found in workflow: " ++ node, none⟩
      .done (.ok (opening.failure complaint c.stamp))

/-- The report of a workflow that cannot be run. -/
def flawedReport (id : String) (stamp : Moment) (f : Workflow.Flaw) : Report :=
  (Report.opening id stamp).failure ⟨f.message, f.node?⟩ stamp

end Cadence
