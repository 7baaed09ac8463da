/-
# Putting a definition into a line

A definition can be run if its graph is one line: a single trigger that no edge enters, exactly
one edge into every other node, at most one edge out of every node, and a walk from the trigger
that meets every node. The data of each node must then have what the node's type asks for.
`Definition.linearize` gives the chain or the first flaw, looking at the nodes' ids, the trigger,
the edges, the entries of the nodes, the walk and the data in this order.

The walk takes each node it meets out of the nodes that are left. It stops at a node without an
exit, or where the next node is no longer there to be taken, which would be a cycle; what is left
at the end cannot be reached.

Key definitions: `Definition.linearize`, `walk`, `configure`, `Definition.linearizeDocument`.
-/
import Cadence.Text.Blank
import Cadence.Workflow.Chain
import Cadence.Workflow.Definition
import Cadence.Workflow.Flaw

namespace Cadence
namespace Workflow

/-- The types of nodes that start a workflow. -/
def startingTypes : List String := ["manual-trigger", "voicemail-trigger"]

/-- The types of nodes that send something, and only within the send window. -/
def sendingTypes : List String := ["send-email", "send-sms", "agent-handoff"]

/-- The type of nodes that wait. -/
def waitType : String := "wait"

/-- The first node whose id is blank or the id of a node before it. -/
def checkIds : List String → List Node → Except Flaw Unit
  | _, [] => .ok ()
  | seen, n :: rest =>
    if Text.isBlankText n.id then .error .blankId
    else if seen.contains n.id then .error (.repeatedId n.id)
    else checkIds (n.id :: seen) rest

/-- The trigger, if there is exactly one. -/
def soleTrigger (nodes : List Node) : Except Flaw Node :=
  match nodes.filter fun n => startingTypes.contains n.type with
  | [t] => .ok t
  | _ => .error .triggerCount

/-- The first edge with an end that is missing or not among the nodes, or that leaves a node which
an edge before it leaves. -/
def checkEdges (ids : List String) : List String → List Edge → Except Flaw Unit
  | _, [] => .ok ()
  | left, e :: rest =>
    if e.source = "" || e.target = "" then .error .looseEdge
    else if !ids.contains e.source then .error (.unknownSource e.source)
    else if !ids.contains e.target then .error (.unknownTarget e.target)
    else if left.contains e.source then .error (.manyExits e.source)
    else checkEdges ids (e.source :: left) rest

/-- The number of edges into a node. -/
def entries (edges : List Edge) (id : String) : Nat := edges.countP (·.target = id)

/-- The first node with a wrong number of entries. -/
def checkEntries (trigger : String) (edges : List Edge) : List Node → Except Flaw Unit
  | [] => .ok ()
  | n :: rest =>
    if n.id = trigger then
      if entries edges n.id = 0 then checkEntries trigger edges rest
      else .error (.triggerEntered n.id)
    else if entries edges n.id = 1 then checkEntries trigger edges rest
    else .error (.entryCount n.id)

/-- The node that an edge from a node leads to. -/
def next? (edges : List Edge) (id : String) : Option String :=
  (edges.find? (·.source = id)).map (·.target)

/-- The nodes met on the way from a node, and those that are left. As many steps are enough as there
are nodes, because each takes one out. -/
def walk (edges : List Edge) : Nat → List Node → String → Except Flaw (List Node × List Node)
  | 0, _, id => .error (.cycle id)
  | steps + 1, left, id =>
    match left.find? (·.id = id) with
    | none => .error (.cycle id)
    | some n =>
      let left := left.eraseP (·.id = id)
      match next? edges id with
      | none => .ok ([n], left)
      | some next => (walk edges steps left next).map fun (met, left) => (n :: met, left)

/-- A text that is there and not blank. -/
def filled? (data : Json.Fields) (name : String) : Option String :=
  (Json.Fields.getD data name).asText?.filter fun s => !Text.isBlankText s

/-- A text that must be there and not be blank. -/
def requireText (id action name : String) (data : Json.Fields) : Except Flaw String :=
  match filled? data name with
  | some s => .ok s
  | none => .error (.blankField id action name)

/-- A whole number above zero, which may be written with a point. -/
def positive? : Json → Option Int
  | .int i => if 0 < i then some i else none
  | .float x => x.toInt?.filter fun i => 0 < i
  | _ => none

/-- The configuration that a node's data gives for its type. -/
def configure (n : Node) : Except Flaw Chain.Config :=
  if startingTypes.contains n.type then .ok .trigger
  else match n.type with
  | "send-email" => do
    let subject ← requireText n.id "Email" "subject" n.data
    let body ← requireText n.id "Email" "body" n.data
    .ok (.email subject body (filled? n.data "to"))
  | "send-sms" => do
    let message ← requireText n.id "SMS" "message" n.data
    .ok (.sms message (filled? n.data "to"))
  | "wait" =>
    match positive? (Json.Fields.getD n.data "amount") with
    | none => .error (.waitAmount n.id)
    | some amount =>
      match (Json.Fields.getD n.data "unit").asText?.bind fun u => WaitUnit.names.lookup u with
      | none => .error (.waitUnit n.id)
      | some unit => .ok (.wait amount unit)
  | "agent-handoff" => do
    let agentId ← requireText n.id "Agent" "agentId" n.data
    .ok (.agent agentId (filled? n.data "notes"))
  | type => .error (.unknownType n.id type)

/-- The node of a chain that a node of a definition becomes. -/
def toChainNode (n : Node) : Except Flaw Chain.Node :=
  (configure n).map fun config => ⟨n.id, n.type, config⟩

namespace Definition

/-- The nodes of a definition in line, or the first flaw of the graph. -/
def line (d : Definition) : Except Flaw (List Node) := do
  checkIds [] d.nodes
  let trigger ← soleTrigger d.nodes
  checkEdges (d.nodes.map (·.id)) [] d.edges
  checkEntries trigger.id d.edges d.nodes
  let (met, left) ← walk d.edges d.nodes.length d.nodes trigger.id
  match left with
  | [] => pure met
  | n :: _ => throw (.unreachable n.id)

/-- The chain of a definition, or its first flaw. -/
def linearize (d : Definition) : Except Flaw Chain := do
  match ← (← d.line).mapM toChainNode with
  | [] => throw .triggerCount
  | trigger :: rest => pure ⟨trigger, trigger :: rest⟩

/-- The chain of a definition that is still a document. One that cannot be read has its first issue
as its flaw. -/
def linearizeDocument (document : Json) : Except Flaw Chain :=
  match Definition.decode document with
  | .ok d => d.linearize
  | .bad issue _ => .error (.unreadable issue)

end Definition
end Workflow
end Cadence
