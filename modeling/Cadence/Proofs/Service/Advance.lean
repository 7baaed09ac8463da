/-
# What advancing does to the store

Advancing ends in one of two ways: nothing was asked of the collaborators and no enrollment got a
step, or one enrollment was run from where it stands, and the steps of the report are added to its
row, unless they only say that it still waits (`Advanced`). Whatever happens, the workflows and the
clock stay as they are, and so do the steps of all other enrollments.

Only a due time that cannot be told keeps the report of a run from being recorded.

Key definitions: `Grew`, `Advanced`.
Key theorems: `advance_cases`, `Invocation.clock`, `Invocation.files`, `Invocation.ids`.
-/
import Cadence.Proofs.Service.Outcome

namespace Cadence
namespace Service

open Enrollment Time

variable {σ : Type}

/-- The state after the enrollment with an id got further steps; workflows and clock are as they
were. -/
structure Grew (id : String) (new : List StepRow) (s s' : State σ) : Prop where
  files : s'.files = s.files
  clock : s'.clock = s.clock
  rows : Grown id new s.rows s'.rows

theorem Grew.refl (id : String) (s : State σ) : Grew id [] s s := ⟨rfl, rfl, .refl id s.rows⟩

/-- News about a lead are stored without touching the steps. -/
theorem told_grew (id : String) (news : Option Lead) (e : Enrollment) (s : State σ) :
    Grew id [] s (told id news e s) := by
  refine ⟨rfl, rfl, grown_modify ?_ s.rows⟩
  intro r
  cases news <;> exact ⟨rfl, rfl, (List.append_nil _).symm⟩

/-- What is recorded of a run are its steps. -/
theorem grown_recorded (id : String) (news : Option Lead) (e : Enrollment) (steps : List Step)
    (status : Status) (completedAt resumeAt : Option Moment) (rows : Rows) :
    Grown id (steps.map StepRow.ofStep) rows
      (rows.modify id (recorded steps status completedAt resumeAt ∘ refreshed news e)) := by
  refine grown_modify ?_ rows
  intro r
  cases news <;> exact ⟨rfl, rfl, rfl⟩

/-- What a run can come to: nothing was asked; it ended with a fault; its due time cannot be told;
or its report was recorded. -/
inductive Advanced (P : Reply → Prop) (c : Config) (k : Collaborators σ) (i : Invocation σ) : Prop
  | idle : i.calls c k = [] → Grew i.id [] i.before (i.after c k) → Advanced P c k i
  | faulted {e : Enrollment} {w : Workflow.Record} {chain : Chain} {p : Resumption} {f : Fault} :
      Ready i.before i.id e w chain p →
      (i.plan c k.handsOver e w chain p).ComesTo P (.error f) (i.calls c k) →
      Grew i.id [] i.before (i.after c k) → Advanced P c k i
  | lost {e : Enrollment} {w : Workflow.Record} {chain : Chain} {p : Resumption} {r : Report}
      {f : Fault} : Ready i.before i.id e w chain p →
      (i.plan c k.handsOver e w chain p).ComesTo P (.ok r) (i.calls c k) →
      r.status ≠ .failed → r.isPaused = true → dueTime i.before.clock r.resumeAt = .error f →
      Grew i.id [] i.before (i.after c k) → Advanced P c k i
  | recorded {e : Enrollment} {w : Workflow.Record} {chain : Chain} {p : Resumption}
      {r : Report} : Ready i.before i.id e w chain p →
      (i.plan c k.handsOver e w chain p).ComesTo P (.ok r) (i.calls c k) →
      Grew i.id ((newSteps e r).map StepRow.ofStep) i.before (i.after c k) → Advanced P c k i

/-- **What a run of an enrollment does to the store.** -/
theorem advance_cases {P : Reply → Prop} (c : Config) {k : Collaborators σ} (hk : k.Reply P)
    (i : Invocation σ) : Advanced P c k i := by
  have hended := advance_ended c hk i
  generalize i.result c k = res at hended
  generalize hafter : i.after c k = s at hended
  cases hended with
  | unread _ hcalls =>
    refine .idle hcalls ?_
    rw [hafter]
    exact .refl i.id i.before
  | unable _ hcalls =>
    refine .idle hcalls ?_
    rw [hafter]
    exact told_grew i.id i.news _ i.before
  | flawed _ hcalls =>
    refine .idle hcalls ?_
    rw [hafter]
    exact ⟨rfl, rfl, grown_recorded i.id i.news _ [] .failed _ none i.before.rows⟩
  | complete _ hcalls =>
    refine .idle hcalls ?_
    rw [hafter]
    exact ⟨rfl, rfl, grown_recorded i.id i.news _ [] .success _ none i.before.rows⟩
  | faulted _ hready hcomes =>
    refine .faulted hready hcomes ?_
    rw [hafter]
    have hgrew := told_grew i.id i.news ‹_› i.before
    exact ⟨hgrew.files, hgrew.clock, hgrew.rows⟩
  | lost _ hready hcomes hs hp hdue =>
    refine .lost hready hcomes hs hp hdue ?_
    rw [hafter]
    have hgrew := told_grew i.id i.news ‹_› i.before
    exact ⟨hgrew.files, hgrew.clock, hgrew.rows⟩
  | recorded _ hready hcomes _ =>
    refine .recorded hready hcomes ?_
    rw [hafter]
    exact ⟨rfl, rfl, grown_recorded i.id i.news _ (newSteps _ _) _ _ _ i.before.rows⟩

/-! ### What no run touches -/

section
variable {c : Config} {k : Collaborators σ}

/-- Running an enrollment does not touch the clock. -/
theorem Invocation.clock (i : Invocation σ) : (i.after c k).clock = i.before.clock := by
  have hk := k.reply_any
  cases advance_cases c hk i with
  | idle _ hgrew => exact hgrew.clock
  | faulted _ _ hgrew => exact hgrew.clock
  | lost _ _ _ _ _ hgrew => exact hgrew.clock
  | recorded _ _ hgrew => exact hgrew.clock

/-- Running an enrollment does not touch the workflows. -/
theorem Invocation.files (i : Invocation σ) : (i.after c k).files = i.before.files := by
  have hk := k.reply_any
  cases advance_cases c hk i with
  | idle _ hgrew => exact hgrew.files
  | faulted _ _ hgrew => exact hgrew.files
  | lost _ _ _ _ _ hgrew => exact hgrew.files
  | recorded _ _ hgrew => exact hgrew.files

/-- Running an enrollment neither makes nor removes one. -/
theorem Invocation.ids (i : Invocation σ) :
    (i.after c k).rows.map (·.id) = i.before.rows.map (·.id) := by
  have hk := k.reply_any
  cases advance_cases c hk i with
  | idle _ hgrew => exact hgrew.rows.ids
  | faulted _ _ hgrew => exact hgrew.rows.ids
  | lost _ _ _ _ _ hgrew => exact hgrew.rows.ids
  | recorded _ _ hgrew => exact hgrew.rows.ids

end

end Service
end Cadence
