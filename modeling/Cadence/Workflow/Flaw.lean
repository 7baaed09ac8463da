/-
# Why a definition cannot be run

A `Flaw` is the first thing found that keeps a workflow definition from being a chain: something
about the graph as a whole, about one node or edge, or about the data of a node. Most flaws name the
node they are about.

Key definitions: `Flaw`, `Flaw.message`, `Flaw.node?`.
-/
import Cadence.Decode.Issue

namespace Cadence
namespace Workflow

/-- What keeps a definition from being a chain. -/
inductive Flaw where
  | unreadable (issue : Issue)
  | blankId
  | repeatedId (id : String)
  | triggerCount
  | looseEdge
  | unknownSource (id : String)
  | unknownTarget (id : String)
  | manyExits (id : String)
  | triggerEntered (id : String)
  | entryCount (id : String)
  | cycle (id : String)
  | unreachable (id : String)
  | blankField (id action field : String)
  | waitAmount (id : String)
  | waitUnit (id : String)
  | unknownType (id type : String)
  deriving Repr, DecidableEq, Inhabited

namespace Flaw

/-- The node that a flaw is about. -/
def node? : Flaw → Option String
  | unreadable _ | blankId | triggerCount | looseEdge => none
  | repeatedId id | unknownSource id | unknownTarget id | manyExits id | triggerEntered id
  | entryCount id | cycle id | unreachable id | blankField id .. | waitAmount id | waitUnit id
  | unknownType id _ => some id

/-- A flaw in words. -/
def message : Flaw → String
  | unreadable issue =>
    "Definition must contain nodes and edges (" ++
      ".".intercalate (issue.path.map Place.text) ++ ": " ++ issue.defect.message ++ ")."
  | blankId => "Every node must have a valid 'id'."
  | repeatedId _ => "Node ids must be unique."
  | triggerCount =>
    "Workflow must have exactly 1 trigger (manual-trigger or voicemail-trigger)."
  | looseEdge => "Every edge must have a 'source' and a 'target'."
  | unknownSource _ => "Edge source node does not exist."
  | unknownTarget _ => "Edge target node does not exist."
  | manyExits _ => "A node may have at most 1 outgoing edge."
  | triggerEntered _ => "The trigger may not have incoming edges."
  | entryCount _ => "Every non-trigger node must have exactly 1 incoming edge."
  | cycle _ => "Cycle detected in workflow."
  | unreachable _ => "Workflow is not linear or contains unreachable nodes."
  | blankField _ action field => action ++ ": '" ++ field ++ "' is required."
  | waitAmount _ => "Wait: 'amount' must be a positive integer."
  | waitUnit _ => "Wait: 'unit' must be minutes, hours or days."
  | unknownType _ type => "Unknown node type: " ++ type

end Flaw
end Workflow
end Cadence
