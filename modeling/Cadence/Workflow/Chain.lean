/-
# Workflows as chains

A workflow that can be run is a chain of nodes, the trigger first. Each node has the configuration
that its type asks for.

Key definitions: `Chain.Config`, `Chain.Node`, `Chain`, `Chain.indexOf?`, `Chain.after?`,
`Chain.get?`.
-/
import Cadence.Decode.Scalar
import Cadence.Json.Display

namespace Cadence

open Decode

/-- The unit of a waiting time. -/
inductive WaitUnit where
  | minutes
  | hours
  | days
  deriving Repr, DecidableEq, Inhabited

namespace WaitUnit

/-- The name of a unit in documents. -/
def name : WaitUnit → String
  | minutes => "minutes"
  | hours => "hours"
  | days => "days"

/-- The names of the units, each with its unit. -/
def names : List (String × WaitUnit) :=
  [(minutes.name, minutes), (hours.name, hours), (days.name, days)]

end WaitUnit

namespace Chain

/-- What a node does. -/
inductive Config where
  | trigger
  | email (subject body : String) (receiver : Option String)
  | sms (message : String) (receiver : Option String)
  | wait (amount : Int) (unit : WaitUnit)
  | agent (agentId : String) (notes : Option String)
  deriving Repr, DecidableEq, Inhabited

/-- A node of a chain: its type and what it does. -/
structure Node where
  id : String
  type : String
  config : Config
  deriving Repr, DecidableEq, Inhabited

end Chain

/-- A workflow that can be run: its nodes in order. The trigger is the first of them. -/
structure Chain where
  trigger : Chain.Node
  nodes : List Chain.Node
  deriving Repr, DecidableEq, Inhabited

namespace Chain

namespace Config

/-- The names of the kinds of configuration. -/
def kinds : List String := ["trigger", "email", "sms", "wait", "agent"]

/-- The name of a configuration's kind. -/
def kind : Config → String
  | trigger => "trigger"
  | email .. => "email"
  | sms .. => "sms"
  | wait .. => "wait"
  | agent .. => "agent"

/-- A configuration as a document. -/
def toJson (c : Config) : Json :=
  .obj (("kind", .str c.kind) :: match c with
    | trigger => []
    | email subject body receiver =>
      [("subject", .str subject), ("body", .str body), ("to", .ofText? receiver)]
    | sms message receiver => [("message", .str message), ("to", .ofText? receiver)]
    | wait amount unit => [("amount", .int amount), ("unit", .str unit.name)]
    | agent agentId notes => [("agentId", .str agentId), ("notes", .ofText? notes)])

/-- Reads the members of a configuration of a given kind. -/
def decodeKind (kind : String) (f : Json.Fields) : Option (Checked Config) :=
  let optional (name : String) := fieldOr [name] none (nullable text) f
  match kind with
  | "trigger" => some (.ok trigger)
  | "email" => some (email <$> field ["subject"] text f <*> field ["body"] text f <*> optional "to")
  | "sms" => some (sms <$> field ["message"] text f <*> optional "to")
  | "wait" =>
    some (wait <$> field ["amount"] integer f <*> field ["unit"] (choiceOf WaitUnit.names) f)
  | "agent" => some (agent <$> field (spellings "agentId") text f <*> optional "notes")
  | _ => none

/-- Reads a configuration, whose kind says what else it has. -/
def decode : Json → Checked Config
  | .obj f =>
    match Json.Fields.get? f "kind" with
    | none => .fail (.untagged "kind")
    | some tag =>
      match tag.asText?.bind fun kind => (decodeKind kind f).map fun c => c.within (.key kind) with
      | some c => c
      | none => .fail (.unknownTag tag.display "kind" kinds)
  | _ => .fail .notTagged

end Config

namespace Node

/-- A node as a document. -/
def toJson (n : Node) : Json :=
  .obj [("id", .str n.id), ("type", .str n.type), ("config", n.config.toJson)]

/-- Reads a node. -/
def decode : Json → Checked Node := record "ChainNode" fun f =>
  Node.mk <$> field ["id"] text f <*> field ["type"] text f <*> field ["config"] Config.decode f

end Node

/-- A chain as a document. -/
def toJson (c : Chain) : Json :=
  .obj [("trigger", c.trigger.toJson), ("nodes", .arr (c.nodes.map Node.toJson))]

/-- Reads a chain. -/
def decode : Json → Checked Chain := record "LinearChain" fun f =>
  Chain.mk <$> field ["trigger"] Node.decode f <*> field ["nodes"] (listOf Node.decode) f

/-- The position of the first node with an id. -/
def indexOf? (c : Chain) (id : String) : Option Nat := c.nodes.findIdx? (·.id = id)

/-- The node after the first one with an id. -/
def after? (c : Chain) (id : String) : Option Node :=
  (c.indexOf? id).bind fun i => c.nodes[i + 1]?

/-- The first node with an id. -/
def get? (c : Chain) (id : String) : Option Node := c.nodes.find? (·.id = id)

end Chain
end Cadence
