/-
# Workflow definitions

A workflow is written as a graph: nodes with a type and free-form data, edges between them, and
settings. Nothing about the graph is required here; which graphs are runnable is decided where they
are put into a line.

A `SendWindow` restricts the days of the week and the time of day at which messages may be sent.
Days are numbered from Sunday, 0; an empty list of days allows every day.

Key definitions: `Workflow.Node`, `Workflow.Edge`, `Workflow.SendWindow`, `Workflow.Definition`.
-/
import Cadence.Decode.Scalar
import Cadence.Json.Free

namespace Cadence
namespace Workflow

open Decode

/-- A place on the canvas, without meaning for a run. -/
structure Position where
  x : Binary64
  y : Binary64
  deriving Repr, DecidableEq, Inhabited

/-- One node of the graph. The type may be any text. -/
structure Node where
  id : String
  type : String
  position : Position
  data : Json.Fields
  deriving Repr, DecidableEq, Inhabited

/-- A directed edge between two nodes, named by their ids. -/
structure Edge where
  id : String
  source : String
  target : String
  deriving Repr, DecidableEq, Inhabited

/-- The days and the times of day at which messages may be sent. -/
structure SendWindow where
  enabled : Bool
  startTime : String
  endTime : String
  allowedDays : List Int
  timezone : Option String
  deriving Repr, DecidableEq, Inhabited

/-- The settings of a workflow. -/
structure Settings where
  sendWindow : Option SendWindow
  deriving Repr, DecidableEq, Inhabited

/-- A workflow as it was written. -/
structure Definition where
  nodes : List Node
  edges : List Edge
  settings : Settings
  deriving Repr, DecidableEq, Inhabited

namespace Position

/-- The origin of the canvas. -/
def origin : Position := ⟨.zero false, .zero false⟩

/-- A position as a document. -/
def toJson (p : Position) : Json := .obj [("x", .float p.x), ("y", .float p.y)]

/-- Reads a position. -/
def decode : Json → Checked Position := record "NodePosition" fun f =>
  Position.mk <$> fieldOr ["x"] (.zero false) number f <*> fieldOr ["y"] (.zero false) number f

end Position

namespace Node

/-- A node as a document. -/
def toJson (n : Node) : Json :=
  .obj [("id", .str n.id), ("type", .str n.type), ("position", n.position.toJson),
    ("data", .obj (Json.finiteFields n.data))]

/-- Whether the values of the data can be written. -/
def isShallow (n : Node) : Bool := Json.Fields.areShallow n.data

/-- A node as a document, if it can be written. -/
def toJson? (n : Node) : Option Json := if n.isShallow then some n.toJson else none

/-- Reads a node. -/
def decode : Json → Checked Node := record "WorkflowNode" fun f =>
  Node.mk <$> field ["id"] text f <*> field ["type"] text f <*>
    fieldOr ["position"] .origin Position.decode f <*> fieldOr ["data"] [] dictionary f

end Node

namespace Edge

/-- An edge as a document. -/
def toJson (e : Edge) : Json :=
  .obj [("id", .str e.id), ("source", .str e.source), ("target", .str e.target)]

/-- Reads an edge. -/
def decode : Json → Checked Edge := record "WorkflowEdge" fun f =>
  Edge.mk <$> fieldOr ["id"] "" text f <*> field ["source"] text f <*> field ["target"] text f

end Edge

namespace SendWindow

/-- A send window as a document. -/
def toJson (w : SendWindow) : Json :=
  .obj [("enabled", .bool w.enabled), ("startTime", .str w.startTime), ("endTime", .str w.endTime),
    ("allowedDays", .arr (w.allowedDays.map .int)), ("timezone", .ofText? w.timezone)]

/-- Reads a send window. Unless it says otherwise it is disabled and stands for office hours. -/
def decode : Json → Checked SendWindow := record "SendWindow" fun f =>
  SendWindow.mk <$> fieldOr ["enabled"] false truth f <*>
    fieldOr (spellings "startTime") "09:00" text f <*>
    fieldOr (spellings "endTime") "17:00" text f <*>
    fieldOr ["allowedDays", "allowed_days", "days"] [1, 2, 3, 4, 5] (listOf integer) f <*>
    fieldOr ["timezone"] none (nullable text) f

end SendWindow

namespace Settings

/-- Settings as a document. -/
def toJson (s : Settings) : Json :=
  .obj [("sendWindow", (s.sendWindow.map SendWindow.toJson).getD .null)]

/-- Reads settings. -/
def decode : Json → Checked Settings := record "WorkflowSettings" fun f =>
  Settings.mk <$> fieldOr (spellings "sendWindow") none (nullable SendWindow.decode) f

end Settings

namespace Definition

/-- A definition without nodes. -/
def empty : Definition := ⟨[], [], ⟨none⟩⟩

/-- A definition as a document. -/
def toJson (d : Definition) : Json :=
  .obj [("nodes", .arr (d.nodes.map Node.toJson)), ("edges", .arr (d.edges.map Edge.toJson)),
    ("settings", d.settings.toJson)]

/-- Whether the data of all nodes can be written. -/
def isShallow (d : Definition) : Bool := d.nodes.all Node.isShallow

/-- A definition as a document, if it can be written. -/
def toJson? (d : Definition) : Option Json := if d.isShallow then some d.toJson else none

/-- Reads a definition. -/
def decode : Json → Checked Definition := record "WorkflowDefinition" fun f =>
  Definition.mk <$> fieldOr ["nodes"] [] (listOf Node.decode) f <*>
    fieldOr ["edges"] [] (listOf Edge.decode) f <*>
    fieldOr ["settings"] ⟨none⟩ Settings.decode f

end Definition
end Workflow
end Cadence
