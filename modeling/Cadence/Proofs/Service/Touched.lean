/-
# Rows, one at a time

A run touches one row, that of its enrollment. What it makes of the row is one of four things
(`Touched`): the news about the lead are stored, the enrollment is ended without a step, because its
workflow cannot be run or because it is complete, or the verdict on a report is recorded. A property
of single rows that survives these, and that a new row has, is one of all rows whatever is done with
a service (`Command.allRows`, `carry_allRows`).

Key definitions: `Touched`, `AllRows`.
Key theorems: `Invocation.touched`, `Invocation.forall_rows`, `Command.allRows`, `carry_allRows`.
-/
import Cadence.Proofs.Service.Command
import Cadence.Proofs.Service.Shape

namespace Cadence
namespace Service

open Time
open Enrollment (Row Rows recorded)

variable {σ : Type}

/-! ### One run -/

/-- What a run makes of the row of its enrollment. -/
inductive Touched (P : Reply → Prop) (c : Config) (k : Collaborators σ) (i : Invocation σ) (r : Row)
    (e : Enrollment) : Row → Prop
  | told : Touched P c k i r e (refreshed i.news e r)
  | flawed {w : Workflow.Record} {flaw : Workflow.Flaw} :
      i.before.files.load i.before.clock.universal e.workflowId = .ok (some w) →
      w.definition.linearize = .error flaw →
      Touched P c k i r e (recorded [] .failed (some i.before.clock) none (refreshed i.news e r))
  | complete {w : Workflow.Record} {chain : Chain} {p : Resumption} :
      i.before.files.load i.before.clock.universal e.workflowId = .ok (some w) →
      w.definition.linearize = .ok chain → resumption chain e.steps = .ok p → p.node = none →
      Touched P c k i r e
        (recorded [] .success (some (e.completedAt.getD i.before.clock)) none
          (refreshed i.news e r))
  | recorded {w : Workflow.Record} {chain : Chain} {p : Resumption} {report : Report}
      {status : Enrollment.Status} {completedAt resumeAt : Option Moment} :
      Ready i.before i.id e w chain p →
      (i.plan c k.handsOver e w chain p).ComesTo P (.ok report) (i.calls c k) →
      Verdict i.before.clock report status completedAt resumeAt →
      Touched P c k i r e
        (Enrollment.recorded (newSteps e report) status completedAt resumeAt (refreshed i.news e r))

section
variable {P : Reply → Prop} {Q : Moment → Prop} {p : Row → Prop} {c : Config} {k : Collaborators σ}

/-- A run does not change the workflow of an enrollment. -/
theorem Touched.workflowId {i : Invocation σ} {r r' : Row} {e : Enrollment}
    (h : Touched P c k i r e r') : r'.workflowId = r.workflowId := by
  cases h <;> exact refreshed_workflowId i.news e r

/-- A run whose enrollment cannot be read changes nothing; any other one touches the row of its
enrollment and no other. -/
theorem Invocation.touched (hk : k.Reply P) (i : Invocation σ) :
    (∀ r e, ¬ Found i.before i.id i.news r e) ∧ i.after c k = i.before ∨
      ∃ r e f, Found i.before i.id i.news r e ∧ (∀ r', (f r').id = r'.id) ∧
        (i.after c k).rows = i.before.rows.modify i.id f ∧ Touched P c k i r e (f r) := by
  have hid := refreshed_id i.news
  have hended := advance_ended c hk i
  generalize i.result c k = res at hended
  generalize i.after c k = s' at hended ⊢
  cases hended with
  | unread hno => exact Or.inl ⟨hno, rfl⟩
  | unable hf => exact Or.inr ⟨_, _, _, hf, hid _, rfl, .told⟩
  | flawed hf _ hload hline =>
    exact Or.inr ⟨_, _, recorded _ _ _ _ ∘ refreshed _ _, hf, hid _, rfl, .flawed hload hline⟩
  | complete hf _ hload hline hp hnone =>
    exact Or.inr ⟨_, _, recorded _ _ _ _ ∘ refreshed _ _, hf, hid _, rfl,
      .complete hload hline hp hnone⟩
  | faulted hf => exact Or.inr ⟨_, _, _, hf, hid _, rfl, .told⟩
  | lost hf => exact Or.inr ⟨_, _, _, hf, hid _, rfl, .told⟩
  | recorded hf hready hcomes hv =>
    exact Or.inr ⟨_, _, recorded _ _ _ _ ∘ refreshed _ _, hf, hid _, rfl,
      .recorded hready hcomes hv⟩

/-- **What a run leaves true of the row that it touches, it leaves true of all rows.** -/
theorem Invocation.forall_rows (hk : k.Reply P) (i : Invocation σ)
    (hids : (i.before.rows.map (·.id)).Nodup)
    (touch : ∀ r e r', Found i.before i.id i.news r e → p r → Touched P c k i r e r' → p r')
    (h : ∀ r ∈ i.before.rows, p r) : ∀ r ∈ (i.after c k).rows, p r := by
  rcases i.touched hk with ⟨-, hafter⟩ | ⟨r, e, f, hf, -, hrows, ht⟩
  · rw [hafter]
    exact h
  · rw [hrows]
    exact hf.forall_modify hids h fun hr => touch r e (f r) hf hr ht

/-! ### Whatever is done -/

/-- The clock shows a time of some kind, and rows have distinct ids and a property. -/
structure AllRows (Q : Moment → Prop) (p : Row → Prop) (s : State σ) : Prop where
  clock : Q s.clock
  ids : (s.rows.map (·.id)).Nodup
  rows : ∀ r ∈ s.rows, p r

theorem AllRows.of_empty {s : State σ} (hclock : Q s.clock) (hrows : s.rows = []) :
    AllRows Q p s := by
  refine ⟨hclock, ?_, ?_⟩ <;> rw [hrows]
  · exact List.nodup_nil
  · exact fun r hr => absurd hr List.not_mem_nil

/-- **A property that new rows have and that runs leave to the rows they touch is kept by every
command.** -/
theorem Command.allRows (hk : k.Reply P) (cmd : Command) {s : State σ}
    (made : ∀ {s₁ : State σ} {workflowId source : String} {lead : Lead} {overrides : Overrides}
      {w : Workflow.Record}, cmd = .operate (.enroll workflowId lead source overrides) →
      Q s₁.clock → p (Row.ofEnrollment (newcomer s₁ w lead source overrides)))
    (touch : ∀ i : Invocation σ, i.before.files = s.files → Q i.before.clock →
      (∀ news ∈ i.news, ∃ id ignore, cmd = .operate (.advance id ignore (some news))) →
      ∀ r e r', Found i.before i.id i.news r e → p r → Touched P c k i r e r' → p r')
    (set : ∀ {now : Moment}, cmd = .operate (.setClock now) → Q now) (h : AllRows Q p s) :
    AllRows Q p (cmd.perform c k s) := by
  refine cmd.keeps ?_ ?_ ?_ ?_ ?_ h
  · intro s₁ s₂ hrows hclock h
    exact ⟨by rw [hclock]; exact h.clock, by rw [hrows]; exact h.ids, by rw [hrows]; exact h.rows⟩
  · intro s₁ s₂ workflowId source lead overrides w heq hr h
    refine ⟨by rw [hr.clock]; exact h.clock, hr.ids h.ids, ?_⟩
    rw [hr.rows]
    intro r hmem
    rcases List.mem_append.1 hmem with hmem | hmem
    · exact h.rows r hmem
    · rw [List.mem_singleton.1 hmem]
      exact made heq h.clock
  · intro i hfiles hnews h
    refine ⟨by rw [i.clock]; exact h.clock, by rw [i.ids]; exact h.ids, ?_⟩
    exact i.forall_rows hk h.ids (touch i hfiles h.clock hnews) h.rows
  · intro s₁ s₂ id hrows hclock h
    refine ⟨by rw [hclock]; exact h.clock, ?_, ?_⟩ <;> rw [hrows]
    · exact h.ids.sublist (List.filter_sublist.map _)
    · exact fun r hr => h.rows r (List.mem_of_mem_filter hr)
  · exact fun heq h => ⟨set heq, h.ids, h.rows⟩

/-- What every command keeps, commands keep. -/
theorem carry_allRows {F : Workflow.Files → Prop} {cmds : List Command} {s : State σ}
    (hfiles : ∀ n, F (carry c k (cmds.take n) s).files)
    (hstep : ∀ cmd ∈ cmds, ∀ s : State σ, F s.files → AllRows Q p s →
      AllRows Q p (cmd.perform c k s)) (h : AllRows Q p s) : AllRows Q p (carry c k cmds s) :=
  @carry_logs σ c k (fun _ => AllRows Q p) F cmds [] s hfiles
    (fun cmd hmem _ s hf h => hstep cmd hmem s hf h) h

end

end Service
end Cadence
