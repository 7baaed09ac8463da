/-
# Who is due has not failed

An enrollment with a due time has no failed step at its end (`Forward`). This is the case whatever
collaborators reply: a report either failed, and then there is no due time, or it pauses, and then
its last step is a success; and an enrollment that still waits has a pause at its end, which a failed
step never is.

So timers and polls, which go by due times, never start out for an enrollment that has failed.

Key definitions: `Forward`.
Key theorems: `last_of_paused`, `Touched.forward`, `carry_forward`.
-/
import Cadence.Proofs.Service.Settled

namespace Cadence
namespace Service

open Time
open Enrollment (Row Rows StepRow)

/-- The enrollment of a row has not failed if it is due some time; and no failed step of it claims to
be a pause. -/
structure Forward (r : Row) : Prop where
  failed : ∀ t ∈ r.steps, t.status = .failed → t.entry.isPaused = false
  due : r.resumeAt.isSome = true → ∀ t ∈ r.steps.getLast?, t.status = .success

variable {σ : Type} {c : Config} {k : Collaborators σ}

theorem Forward.refreshed {r : Row} (h : Forward r) (news : Option Lead) (e : Enrollment) :
    Forward (refreshed news e r) := by
  cases news <;> exact ⟨h.failed, h.due⟩

/-- What is recorded keeps an enrollment from having failed while it is due, if its last step is a
success whenever it is. -/
theorem Forward.recorded {r : Row} (h : Forward r) {steps : List Step}
    (hsteps : ∀ s ∈ steps, s.status = .failed → s.isPaused = false) (status : Enrollment.Status)
    (completedAt resumeAt : Option Moment)
    (hlast : resumeAt.isSome = true →
      ∀ t ∈ (r.steps ++ steps.map StepRow.ofStep).getLast?, t.status = .success) :
    Forward (Enrollment.recorded steps status completedAt resumeAt r) := by
  refine ⟨fun t ht hf => ?_, fun hdue => hlast ?_⟩
  · rcases List.mem_append.1 ht with ht | ht
    · exact h.failed t ht hf
    · obtain ⟨s, hs, rfl⟩ := List.mem_map.1 ht
      exact hsteps s hs hf
  · rw [← Option.isSome_map]
    exact hdue

/-- An enrollment that ends has no due time. -/
theorem Forward.ended {r : Row} (h : Forward r) {steps : List Step}
    (hsteps : ∀ s ∈ steps, s.status = .failed → s.isPaused = false) (status : Enrollment.Status)
    (completedAt : Option Moment) :
    Forward (Enrollment.recorded steps status completedAt none r) :=
  h.recorded hsteps status completedAt none fun hdue => absurd hdue Bool.false_ne_true

/-- No failed step of those that a run adds is a pause. -/
theorem newSteps_failed {P : Reply → Prop} {h : Bool} {chain : Chain} {options : RunOptions}
    {report : Report} {xs : List Exchange}
    (hcomes : (Runnable.run h (.chain chain) options).ComesTo P (.ok report) xs) (e : Enrollment) :
    ∀ s ∈ newSteps e report, s.status = .failed → s.isPaused = false := by
  intro s hs
  rcases run_closes hcomes with ⟨-, hno, hnil⟩ | ⟨nodes, -, -, -, hcloses⟩
  · rw [newSteps_of_not_paused e hno, hnil] at hs
    exact absurd hs List.not_mem_nil
  · exact hcloses.failed_isPaused s (newSteps_subset e report hs)

/-- Behind a run that pauses the last step of an enrollment is a success: it is the pause of the run,
or that of before if the enrollment still waits. -/
theorem last_of_paused {P : Reply → Prop} {h : Bool} {chain : Chain} {options : RunOptions}
    {report : Report} {xs : List Exchange} {e : Enrollment} {rows : List StepRow}
    (hcomes : (Runnable.run h (.chain chain) options).ComesTo P (.ok report) xs)
    (hp : report.isPaused = true) (hentries : e.steps.map Step.entry = rows.map StepRow.entry)
    (hrows : ∀ t ∈ rows, t.status = .failed → t.entry.isPaused = false) :
    ∀ t ∈ (rows ++ (newSteps e report).map StepRow.ofStep).getLast?, t.status = .success := by
  intro t ht
  rcases newSteps_cases e report with hall | ⟨hnil, -, -, last, -, hlast, hyes, -⟩
  · rcases run_closes hcomes with ⟨-, hno, -⟩ | ⟨nodes, -, -, -, hcloses⟩
    · exact absurd (hno.symm.trans hp) Bool.false_ne_true
    obtain ⟨s, -, -, -, -, hlast, hsucc, -⟩ := hcloses.pause hp
    rw [hall, List.getLast?_append, List.getLast?_map, hlast] at ht
    cases ht
    exact hsucc
  · -- a failed step is no pause
    rw [hnil, List.map_nil, List.append_nil] at ht
    obtain ⟨t', ht', hentry⟩ := last_of_entries hentries hlast
    obtain rfl := Option.some.inj (ht'.symm.trans ht)
    cases hstatus : t'.status with
    | success => rfl
    | failed =>
      have hno := hrows t' (List.mem_of_getLast? ht') hstatus
      rw [hentry, Step.entry_isPaused, hyes] at hno
      cases hno

/-- **A run keeps enrollments that are due from having failed**, whatever the replies are. -/
theorem Touched.forward {i : Invocation σ} {r r' : Row} {e : Enrollment}
    (hf : Found i.before i.id i.news r e) (hr : Forward r)
    (ht : Touched (fun _ => True) c k i r e r') : Forward r' := by
  have hrefreshed := hr.refreshed i.news e
  have hnone : ∀ s ∈ ([] : List Step), s.status = .failed → s.isPaused = false :=
    fun _ hs => absurd hs List.not_mem_nil
  cases ht with
  | told => exact hrefreshed
  | flawed => exact hrefreshed.ended hnone _ _
  | complete => exact hrefreshed.ended hnone _ _
  | recorded hready hcomes hv =>
    have hnew := newSteps_failed hcomes e
    cases hv with
    | failed => exact hrefreshed.ended hnew _ _
    | succeeded => exact hrefreshed.ended hnew _ _
    | paused hs hp =>
      refine hrefreshed.recorded hnew _ _ _ fun _ => ?_
      rw [refreshed_steps]
      exact last_of_paused hcomes hp hf.entries hr.failed

/-- Rows with distinct ids, none of an enrollment that is due and has failed. -/
abbrev AllForward (s : State σ) : Prop := AllRows (fun _ => True) Forward s

theorem Invocation.forward (i : Invocation σ) (h : AllForward i.before) :
    AllForward (i.after c k) :=
  ⟨trivial, by rw [i.ids]; exact h.ids,
    i.forall_rows k.reply_any h.ids (fun _ _ _ hf hr ht => ht.forward hf hr) h.rows⟩

/-- **Whatever is done with a service, no enrollment that is due has failed.** -/
theorem carry_forward {s : State σ} (hrows : s.rows = []) (cmds : List Command) :
    AllForward (carry c k cmds s) := by
  refine carry_allRows (F := fun _ => True) (fun _ => trivial) (fun cmd _ s _ h => ?_)
    (.of_empty trivial hrows)
  refine cmd.allRows k.reply_any (fun _ _ => ?_) (fun _ _ _ _ r e r' hf hr ht => ht.forward hf hr)
    (fun _ => trivial) h
  exact ⟨fun _ ht => absurd ht List.not_mem_nil, fun hdue => by cases hdue⟩

end Service
end Cadence
