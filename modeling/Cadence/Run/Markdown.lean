/-
# Reports for reading

A report is shown as a heading with what is known about the run, what went wrong, a table with one
row for each step, and how long the run took.

Key definitions: `Step.row`, `stepsTable`, `Report.markdown`.
-/
import Cadence.Fault
import Cadence.Number.Decimal
import Cadence.Run.Report

namespace Cadence

open Time

namespace Step

/-- The members of a step's output that its row shows. -/
def shownMembers (s : Step) : Json.Fields :=
  s.output.filter fun m => m.1 != "status" && m.1 != "raw"

/-- The mark and the detail of a step's row. -/
def markAndDetail (s : Step) : String × String :=
  match s.status with
  | .failed => ("FAIL", ((Json.Fields.get? s.output "error").getD (.str "")).display)
  | .success =>
    if s.isSkipped then ("SKIP", ((Json.Fields.get? s.output "reason").getD (.str "")).display)
    else if s.isPaused then
      ("PAUSE", (s.get "amount").display ++ " " ++ (s.get "unit").display ++ " until " ++
        (s.get "resumeAt").display)
    else ("OK", ", ".intercalate (s.shownMembers.map fun m => m.1 ++ "=" ++ m.2.display))

/-- The row of a step in the table. -/
def row (number : Nat) (s : Step) : String :=
  "| " ++ toString number ++ " | `" ++ s.nodeId ++ "` | " ++ s.nodeType ++ " | " ++
    s.markAndDetail.1 ++ " | " ++ s.markAndDetail.2 ++ " |"

end Step

/-- The rows of steps, numbered from a number on. -/
def rowsFrom : Nat → List Step → List String
  | _, [] => []
  | i, s :: rest => s.row i :: rowsFrom (i + 1) rest

/-- The heading of the table of steps. -/
def tableHead : List String :=
  ["## Steps", "", "| # | Node | Type | Status | Detail |", "|---|------|------|--------|--------|"]

/-- The lines of the table of steps. -/
def stepsTable (steps : List Step) : List String := tableHead ++ rowsFrom 1 steps

namespace Report

/-- The microseconds between two moments, which must both have an offset or both have none. -/
def elapsed (start finish : Moment) : Except Fault Int :=
  match start.until? finish with
  | some us => .ok us
  | none => .error .mismatched

/-- A duration in microseconds, in seconds with two places. -/
def seconds (micros : Int) : String :=
  Decimal.fixed 2 (.ofRatio (micros < 0) micros.natAbs 1000000)

/-- The lines about where and why a run failed. -/
def errorLines (c : Complaint) : List String :=
  let at_ := match c.node.filter (· ≠ "") with
    | some node => " (node `" ++ node ++ "`)"
    | none => ""
  ["## Error", "- " ++ c.message ++ at_, ""]

/-- The line about where a run paused. -/
def pauseLine (r : Report) : String :=
  "**Paused at:** `" ++ r.pausedNode.getD "None" ++ "` until " ++
    (r.resumeAt.map Due.display).getD "None"

/-- A report as text with a title. -/
def markdown (r : Report) (title : String) : Except Fault String := do
  let duration ← match r.completedAt with
    | some finish => do
      let us ← elapsed r.startedAt finish
      pure ["**Duration:** " ++ seconds us ++ "s"]
    | none => pure []
  pure <| "\n".intercalate <|
    ["# Execution Report: " ++ title, "", "**Execution ID:** `" ++ r.executionId ++ "`",
      "**Status:** " ++ r.status.name, "**Steps:** " ++ toString r.steps.length] ++
    (if r.isPaused then [r.pauseLine] else []) ++ [""] ++
    (r.error.map errorLines).getD [] ++ stepsTable r.steps ++ [""] ++ duration

end Report
end Cadence
