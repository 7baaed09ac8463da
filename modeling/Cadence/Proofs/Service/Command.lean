/-
# All that is done with a service

Operations drive enrollments. Beside them enrollments are deleted, workflows are saved and dropped,
and the service is stopped and started again on what is stored. `carry` carries out a list of such
commands.

An invariant of all commands is shown part by part: it may not depend on files and timers, it has to
hold again when an enrollment has been made, run or deleted, and when the clock was set
(`Command.keeps`). During one command the workflows stay as they are. An invariant may also speak of
the runs that there have been so far, its log; a run is added to the log then (`Command.logs`,
`carry_logs`).

Key definitions: `Command`, `Command.perform`, `carry`, `Command.invocations`, `carried`,
`Command.Sets`.
Key theorems: `Runs.logs`, `Command.logs`, `Command.keeps`, `carry_logs`.
-/
import Cadence.Proofs.Service.Play

namespace Cadence
namespace Service

open Time
open Enrollment (Row Rows)

variable {σ : Type}

/-- What is done with a service and with what it stores. -/
inductive Command where
  | operate (op : Operation)
  | restart
  | delete (id : String)
  | save (record : Workflow.Record)
  | drop (workflowId : String)
  deriving Repr, DecidableEq, Inhabited

/-- Carries out a command: the state after it. -/
def Command.perform (c : Config) (k : Collaborators σ) : Command → State σ → State σ
  | .operate op, s => op.perform c k s
  | .restart, s => (Service.start c).after ((Service.stop : Op σ Unit).after s)
  | .delete id, s => (Service.delete id).after s
  | .save record, s => (saveWorkflow record).after s
  | .drop workflowId, s => (dropWorkflow workflowId).after s

/-- Carries out commands in order. -/
def carry (c : Config) (k : Collaborators σ) : List Command → State σ → State σ
  | [], s => s
  | cmd :: cmds, s => carry c k cmds (cmd.perform c k s)

/-- The runs of enrollments that a command comes to, in order. -/
def Command.invocations (c : Config) (k : Collaborators σ) :
    Command → State σ → List (Invocation σ)
  | .operate op, s => op.invocations c k s
  | _, _ => []

/-- The runs of enrollments that commands come to. -/
def carried (c : Config) (k : Collaborators σ) : List Command → State σ → List (Invocation σ)
  | [], _ => []
  | cmd :: cmds, s => cmd.invocations c k s ++ carried c k cmds (cmd.perform c k s)

theorem carry_append (c : Config) (k : Collaborators σ) : ∀ (cmds cmds' : List Command)
    (s : State σ), carry c k (cmds ++ cmds') s = carry c k cmds' (carry c k cmds s)
  | [], _, _ => rfl
  | cmd :: cmds, cmds', s => carry_append c k cmds cmds' (cmd.perform c k s)

/-! ### What the commands beside operations do -/

theorem delete_after (id : String) (s : State σ) :
    (Service.delete id).after s =
      { s with timers := s.timers.remove id, rows := s.rows.filter (·.id ≠ id) } := rfl

theorem save_after (record : Workflow.Record) (s : State σ) :
    ∃ files, (saveWorkflow record).after s = { s with files } := by
  unfold Op.after
  rw [run_saveWorkflow]
  rcases s.files.save s.clock.universal record with f | ⟨r, files⟩
  · exact ⟨s.files, rfl⟩
  · exact ⟨files, rfl⟩

theorem drop_after (workflowId : String) (s : State σ) :
    ∃ files, (dropWorkflow workflowId).after s = { s with files } := by
  unfold Op.after
  rw [run_dropWorkflow]
  rcases s.files.delete workflowId with f | ⟨found, files⟩
  · exact ⟨s.files, rfl⟩
  · exact ⟨files, rfl⟩

theorem restart_idle (c : Config) (s : State σ) :
    Idle s ((Service.start c).after ((Service.stop : Op σ Unit).after s)) :=
  have hstop : Idle s ((Service.stop : Op σ Unit).after s) := ⟨rfl, rfl, rfl⟩
  hstop.trans (start_idle _)

/-- Whether a command leaves all workflows as they are. -/
def Command.spares : Command → Bool
  | .save _ | .drop _ => false
  | _ => true

theorem Command.files (c : Config) (k : Collaborators σ) {cmd : Command} (h : cmd.spares = true)
    (s : State σ) : (cmd.perform c k s).files = s.files := by
  cases cmd with
  | operate op =>
    by_cases hclock : ∃ now, op = .setClock now
    · obtain ⟨now, rfl⟩ := hclock
      rfl
    · exact (op.turns s fun now heq => hclock ⟨now, heq⟩).files
  | restart => exact (restart_idle c s).files
  | delete id => rfl
  | save record => cases h
  | drop workflowId => cases h

theorem carry_files (c : Config) (k : Collaborators σ) : ∀ {cmds : List Command},
    (∀ cmd ∈ cmds, cmd.spares = true) → ∀ s : State σ, (carry c k cmds s).files = s.files
  | [], _, _ => rfl
  | cmd :: _, h, s =>
    (carry_files c k (fun cmd hmem => h cmd (List.mem_cons_of_mem _ hmem)) _).trans
      (cmd.files c k (h cmd List.mem_cons_self) s)

/-! ### Invariants -/

/-- The command sets the clock to times of some kind, if it does. -/
def Command.Sets (Q : Moment → Prop) : Command → Prop
  | .operate (.setClock now) => Q now
  | _ => True

theorem Command.Sets.imp {Q Q' : Moment → Prop} {cmd : Command} (h : cmd.Sets Q)
    (hQ : ∀ m, Q m → Q' m) : cmd.Sets Q' := by
  cases cmd with
  | operate op =>
    cases op with
    | setClock now => exact hQ now h
    | _ => exact h
  | _ => exact h

theorem Command.sets_any (cmd : Command) : cmd.Sets fun _ => True := by
  cases cmd with
  | operate op => cases op <;> trivial
  | _ => trivial

section
variable {c : Config} {k : Collaborators σ} {J : List (Invocation σ) → State σ → Prop}
  {I : State σ → Prop}

/-- What single runs of enrollments keep, several of them in a row keep. -/
theorem Runs.logs (still : ∀ {past} {s₁ s₂ : State σ}, Idle s₁ s₂ → J past s₁ → J past s₂)
    {s s' : State σ} {is : List (Invocation σ)} (h : Runs c k s is s')
    (run : ∀ i ∈ is, i.before.files = s.files → ∀ past, J past i.before →
      J (past ++ [i]) (i.after c k)) : ∀ {past}, J past s → J (past ++ is) s' := by
  induction h with
  | done =>
    intro past hs
    rwa [List.append_nil]
  | idle hi _ ih =>
    intro past hs
    exact ih (fun i hmem hf => run i hmem (hf.trans hi.files)) (still hi hs)
  | run _ ih =>
    rename_i i s'' is _
    intro past hs
    have hrest := ih (fun j hmem hf => run j (List.mem_cons_of_mem _ hmem) (hf.trans i.files))
      (run i List.mem_cons_self rfl past hs)
    rwa [List.append_assoc, List.singleton_append] at hrest

/-- Who is woken is run plainly. -/
theorem Woken.plain {s s' : State σ} {is : List (Invocation σ)} (h : Woken c k s is s') :
    ∀ i ∈ is, i.ignore = none ∧ i.news = none := by
  induction h with
  | done => exact fun i hi => absurd hi List.not_mem_nil
  | wake _ ih => exact List.forall_mem_cons.2 ⟨⟨rfl, rfl⟩, ih⟩

/-- Timers, polls and enrollments run enrollments plainly. Only somebody who advances one says more:
whether the send window is to be ignored, or news about the lead. -/
theorem Operation.explicit (op : Operation) (s : State σ) : ∀ i ∈ op.invocations c k s,
    (i.ignore = none ∧ i.news = none) ∨ op = .advance i.id i.ignore i.news := by
  intro i hi
  cases op with
  | enroll workflowId lead source overrides =>
    rcases enroll_cases (c := c) (k := k) workflowId lead source overrides s with
      ⟨hinv, -⟩ | ⟨w, s', -, hinv, -⟩
    · rw [hinv] at hi
      exact absurd hi List.not_mem_nil
    · rw [hinv] at hi
      rw [List.mem_singleton.1 hi]
      exact Or.inl ⟨rfl, rfl⟩
  | advance id ignore news =>
    rw [List.mem_singleton.1 hi]
    exact Or.inr rfl
  | fire id =>
    exact Or.inl ((Operation.woken (.fire id) s (Or.inr (Or.inl ⟨id, rfl⟩))).plain i hi)
  | wakeDue now =>
    exact Or.inl ((Operation.woken (.wakeDue now) s (Or.inr (Or.inr ⟨now, rfl⟩))).plain i hi)
  | tick => exact Or.inl ((Operation.woken .tick s (Or.inl rfl)).plain i hi)
  | start => exact absurd hi List.not_mem_nil
  | stop => exact absurd hi List.not_mem_nil
  | setClock now => exact absurd hi List.not_mem_nil

/-- Only somebody who advances an enrollment brings news about its lead. -/
theorem Operation.news (op : Operation) (s : State σ) : ∀ i ∈ op.invocations c k s,
    i.news = none ∨ op = .advance i.id i.ignore i.news :=
  fun i hi => (op.explicit s i hi).imp And.right id

/-- Among commands, too, the send window is ignored on request only where one says so. -/
theorem carried_ignore : ∀ {cmds : List Command} {s : State σ}, ∀ i ∈ carried c k cmds s,
    i.ignore = none ∨ .operate (.advance i.id i.ignore i.news) ∈ cmds
  | [], _, i, hi => absurd hi List.not_mem_nil
  | cmd :: cmds, s, i, hi => by
    unfold carried at hi
    rcases List.mem_append.1 hi with hi | hi
    · cases cmd with
      | operate op =>
        rcases op.explicit s i hi with hplain | hop
        · exact Or.inl hplain.1
        · exact Or.inr (List.mem_cons.2 (Or.inl (congrArg Command.operate hop.symm)))
      | restart | delete | save | drop => exact absurd hi List.not_mem_nil
    · exact (carried_ignore i hi).imp id (List.mem_cons_of_mem _)

/-- **What holds of all parts of a command holds of the command**, where what holds may speak of the
runs so far. -/
theorem Command.logs (cmd : Command) {s : State σ} (past : List (Invocation σ))
    (still : ∀ past (s₁ s₂ : State σ), s₂.rows = s₁.rows → s₂.clock = s₁.clock → J past s₁ →
      J past s₂)
    (made : ∀ {past} {s₁ s₂ : State σ} {workflowId source : String} {lead : Lead}
      {overrides : Overrides} {w : Workflow.Record},
      cmd = .operate (.enroll workflowId lead source overrides) →
      Registered s₁ (newcomer s₁ w lead source overrides) s₂ → J past s₁ → J past s₂)
    (run : ∀ (i : Invocation σ) past, i.before.files = s.files →
      (∀ news ∈ i.news, ∃ id ignore, cmd = .operate (.advance id ignore (some news))) →
      J past i.before → J (past ++ [i]) (i.after c k))
    (gone : ∀ {past} {s₁ s₂ : State σ} {id : String}, s₂.rows = s₁.rows.filter (·.id ≠ id) →
      s₂.clock = s₁.clock → J past s₁ → J past s₂)
    (set : ∀ {past} {s₁ : State σ} {now : Moment}, cmd = .operate (.setClock now) → J past s₁ →
      J past { s₁ with clock := now })
    (hs : J past s) : J (past ++ cmd.invocations c k s) (cmd.perform c k s) := by
  -- a command beside operations runs nothing
  have hnone : ∀ {s' : State σ}, J past s' → J (past ++ []) s' := by
    intro s' hs'
    rwa [List.append_nil]
  cases cmd with
  | operate op =>
    by_cases hclock : ∃ now, op = .setClock now
    · obtain ⟨now, rfl⟩ := hclock
      exact hnone (set rfl hs)
    by_cases henroll : ∃ workflowId lead source overrides,
        op = .enroll workflowId lead source overrides
    · obtain ⟨workflowId, lead, source, overrides, rfl⟩ := henroll
      show J (past ++ (Operation.enroll workflowId lead source overrides).invocations c k s)
        ((Operation.enroll workflowId lead source overrides).perform c k s)
      rcases enroll_cases (c := c) (k := k) workflowId lead source overrides s with
        ⟨hinv, hidle, -⟩ | ⟨w, s', hreg, hinv, hafter⟩
      · rw [hinv]
        exact hnone (still past s _ hidle.rows hidle.clock hs)
      · rw [hinv, hafter]
        exact run ⟨(newcomer s w lead source overrides).id, none, none, s'⟩ past hreg.files
          (fun news hnews => by cases hnews) (made rfl hreg hs)
    · have hruns := op.runs (c := c) (k := k) s (fun now heq => hclock ⟨now, heq⟩)
        fun workflowId lead source overrides heq =>
          henroll ⟨workflowId, lead, source, overrides, heq⟩
      show J (past ++ op.invocations c k s) (op.perform c k s)
      refine Runs.logs (J := J) (fun hi => still _ _ _ hi.rows hi.clock) hruns ?_ hs
      intro i hi hfiles past
      refine run i past hfiles ?_
      intro news hnews
      rcases op.news s i hi with hno | hadvance
      · rw [hno] at hnews
        cases hnews
      · refine ⟨i.id, i.ignore, ?_⟩
        rw [hadvance, show i.news = some news from hnews]
  | restart => exact hnone (still past s _ (restart_idle c s).rows (restart_idle c s).clock hs)
  | delete id =>
    show J (past ++ []) ((Service.delete id).after s)
    rw [delete_after]
    exact hnone (gone rfl rfl hs)
  | save record =>
    obtain ⟨files, hafter⟩ := save_after record s
    show J (past ++ []) ((saveWorkflow record).after s)
    rw [hafter]
    exact hnone (still past s _ rfl rfl hs)
  | drop workflowId =>
    obtain ⟨files, hafter⟩ := drop_after workflowId s
    show J (past ++ []) ((dropWorkflow workflowId).after s)
    rw [hafter]
    exact hnone (still past s _ rfl rfl hs)

/-- What holds of all parts of a command holds of the command, where nothing is said of the runs so
far. -/
theorem Command.keeps (cmd : Command) {s : State σ}
    (still : ∀ s₁ s₂ : State σ, s₂.rows = s₁.rows → s₂.clock = s₁.clock → I s₁ → I s₂)
    (made : ∀ {s₁ s₂ : State σ} {workflowId source : String} {lead : Lead} {overrides : Overrides}
      {w : Workflow.Record}, cmd = .operate (.enroll workflowId lead source overrides) →
      Registered s₁ (newcomer s₁ w lead source overrides) s₂ → I s₁ → I s₂)
    (run : ∀ i : Invocation σ, i.before.files = s.files →
      (∀ news ∈ i.news, ∃ id ignore, cmd = .operate (.advance id ignore (some news))) →
      I i.before → I (i.after c k))
    (gone : ∀ {s₁ s₂ : State σ} {id : String}, s₂.rows = s₁.rows.filter (·.id ≠ id) →
      s₂.clock = s₁.clock → I s₁ → I s₂)
    (set : ∀ {s₁ : State σ} {now : Moment}, cmd = .operate (.setClock now) → I s₁ →
      I { s₁ with clock := now })
    (hs : I s) : I (cmd.perform c k s) :=
  cmd.logs (J := fun _ => I) [] (fun _ => still) made (fun i _ => run i) gone set hs

/-- **What every command keeps, commands keep**, together with the runs they come to. -/
theorem carry_logs {F : Workflow.Files → Prop} : ∀ {cmds : List Command} {past : List (Invocation σ)}
    {s : State σ}, (∀ n, F (carry c k (cmds.take n) s).files) →
    (∀ cmd ∈ cmds, ∀ past (s : State σ), F s.files → J past s →
      J (past ++ cmd.invocations c k s) (cmd.perform c k s)) →
    J past s → J (past ++ carried c k cmds s) (carry c k cmds s)
  | [], past, s, _, _, hs => by
    rw [show carried c k [] s = [] from rfl, List.append_nil]
    exact hs
  | cmd :: cmds, past, s, hfiles, hstep, hs => by
    have hrest := carry_logs (fun n => hfiles (n + 1))
      (fun cmd hmem => hstep cmd (List.mem_cons_of_mem _ hmem))
      (hstep cmd List.mem_cons_self past s (hfiles 0) hs)
    rwa [List.append_assoc] at hrest

end

end Service
end Cadence
