/-
# Steps

A `Step` is what running one node came to: whether it succeeded, and an output with free members. A
step whose output says so is paused or skipped; both are successes.

Key definitions: `Step`, `Step.isPaused`, `Step.isSkipped`.
-/
import Cadence.Decode.Moment
import Cadence.Json.Free
import Cadence.Time.Iso

namespace Cadence

open Decode Time

/-- How a step or a run ended. -/
inductive Outcome where
  | success
  | failed
  deriving Repr, DecidableEq, Inhabited

namespace Outcome

/-- The name of an outcome in documents. -/
def name : Outcome → String
  | success => "success"
  | failed => "failed"

/-- Reads an outcome. -/
def decode : Json → Checked Outcome := choiceOf [(success.name, success), (failed.name, failed)]

end Outcome

/-- What running one node came to. -/
structure Step where
  nodeId : String
  nodeType : String
  status : Outcome
  output : Json.Fields
  createdAt : Moment
  deriving Repr, DecidableEq, Inhabited

namespace Step

/-- The value of a key of the output; null where there is none. -/
def get (s : Step) (key : String) : Json := Json.Fields.getD s.output key

/-- Whether the step paused the run. -/
def isPaused (s : Step) : Bool := (s.get "paused").isTruthy

/-- Whether the step did nothing. -/
def isSkipped (s : Step) : Bool := (s.get "skipped").isTruthy

/-- A step as a document. -/
def toJson (s : Step) : Json :=
  .obj [("nodeId", .str s.nodeId), ("nodeType", .str s.nodeType), ("status", .str s.status.name),
    ("output", .obj (Json.finiteFields s.output)), ("createdAt", .str s.createdAt.wire)]

/-- Whether the values of the output can be written. -/
def isShallow (s : Step) : Bool := Json.Fields.areShallow s.output

/-- A step as a document, if it can be written. -/
def toJson? (s : Step) : Option Json := if s.isShallow then some s.toJson else none

/-- Reads a step; one that does not give its time happened `now`. -/
def decode (now : Moment) : Json → Checked Step := record "ExecutionStep" fun f =>
  Step.mk <$> field (spellings "nodeId") text f <*> field (spellings "nodeType") text f <*>
    field ["status"] Outcome.decode f <*> fieldOr ["output"] [] dictionary f <*>
    fieldOr (spellings "createdAt") now moment f

end Step
end Cadence
