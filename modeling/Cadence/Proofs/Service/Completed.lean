/-
# Enrollments that have succeeded

An enrollment that has succeeded stays as it is. Its chain is complete, so a run that comes to it
finds no node to start at, asks nobody, and records again what the row says already: the status, no
due time, and the time of completion that was read from the row (`Invocation.over`).

All this is a matter of one row, whatever the collaborators reply. The time of completion is that of
the clock and may have any offset. Not every offset can be read back, but then the run ends with a
fault and nothing is recorded.

Key definitions: `Completed`.
Key theorems: `complete_of_run`, `Command.completed`, `Invocation.over`.
-/
import Cadence.Proofs.Service.Settled

namespace Cadence
namespace Service

open Time
open Enrollment (Row Rows StepRow recorded)

variable {σ : Type}

/-- The invariant of a row: its time of completion is one that a clock can show, it has one if the
enrollment succeeded, but no due time, and then the chain of its workflow is complete. -/
structure Completed (wid : String) (chain : Chain) (r : Row) : Prop where
  completedAt : ∀ text ∈ r.completedAt, ∃ m : Moment, m.IsValid ∧ text = m.iso
  dated : r.status = .success → r.completedAt.isSome = true
  idle : r.status = .success → r.resumeAt = none
  complete : r.workflowId = wid → r.status = .success → ∀ steps,
    r.steps.mapM StepRow.read = .ok steps → (resumption chain steps).map (·.node) = .ok none

section
variable {P : Reply → Prop} {wid : String} {d : Workflow.Definition} {chain : Chain} {c : Config}
  {k : Collaborators σ} {i : Invocation σ} {r : Row} {e : Enrollment}

/-! ### The invariant -/

/-- **Behind a run that succeeded without a pause its chain is complete.** -/
theorem complete_of_run (hs : chain.Sound) {options : RunOptions} {report : Report} {h : Bool}
    {calls : List Exchange}
    (hcomes : (Runnable.run h (.chain chain) options).ComesTo P (.ok report) calls)
    (hsucc : report.status = .success) (hno : report.isPaused = false) {before : List StepRow}
    {steps : List Step}
    (hread : (before ++ report.steps.map StepRow.ofStep).mapM StepRow.read = .ok steps) :
    resumption chain steps = .ok ⟨none, none⟩ := by
  rcases run_closes hcomes with ⟨hfailed, -⟩ | ⟨nodes, ⟨passed, hnodes⟩, hne, -, hcloses⟩
  · exact absurd (hsucc.symm.trans hfailed) (by decide)
  obtain ⟨last, front, n, hlast, hsplit, hid, hpassed⟩ :=
    hcloses.last_passed hsucc hno (hne hs.nonempty)
  have hentry : (steps.map Step.entry).getLast? = some last.entry := by
    rw [entries_of_read hread, List.map_append, ofStep_entries, List.getLast?_append,
      List.getLast?_map, hlast]
    rfl
  rw [List.getLast?_map] at hentry
  obtain ⟨s, hs', hsame⟩ := Option.map_eq_some_iff.1 hentry
  rw [hsplit, ← List.append_assoc] at hnodes
  exact complete_of_last hs hs' hnodes.symm ((congrArg Entry.nodeId hsame).trans hid)
    ((congrArg Entry.status hsame).trans hpassed.1)
    ((congrArg Entry.isPaused hsame).trans hpassed.2)

/-- The time of completion that is read from a row is the one that was written. -/
theorem Completed.read_completedAt (h : Completed wid chain r) {e : Enrollment}
    (hread : r.read = .ok e) :
    r.completedAt = e.completedAt.map Moment.iso ∧ ∀ m ∈ e.completedAt, m.IsValid :=
  Enrollment.read_times_of_iso (fun _ => id) h.completedAt
    (Enrollment.read_eq_ok.1 hread).completedAt

/-- What is read from the row of the enrollment that is run. -/
theorem Found.completedAt (h : Completed wid chain r) (hf : Found i.before i.id i.news r e) :
    r.completedAt = e.completedAt.map Moment.iso ∧ ∀ m ∈ e.completedAt, m.IsValid := by
  obtain ⟨e', hread, rfl⟩ := hf.read
  rw [informed_completedAt]
  exact h.read_completedAt hread

/-- A run leaves the row that it touches with the invariant. -/
theorem Touched.completed (hchain : d.linearize = .ok chain)
    (hsame : Unedited wid d i.before.files) (hclock : i.before.clock.IsValid)
    (hf : Found i.before i.id i.news r e) (h : Completed wid chain r) {r' : Row}
    (ht : Touched P c k i r e r') : Completed wid chain r' := by
  have hs := Workflow.linearize_sound hchain
  have hnow : ∀ text ∈ (some i.before.clock).map Moment.iso, ∃ m : Moment,
      m.IsValid ∧ text = m.iso := fun text htext => ⟨_, hclock, by cases htext; rfl⟩
  have hwid := refreshed_workflowId i.news e r
  obtain ⟨-, hread⟩ := hf.completedAt h
  cases ht with
  | told =>
    cases i.news with
    | none => exact h
    | some news => exact ⟨h.completedAt, h.dated, h.idle, h.complete⟩
  | flawed => exact ⟨hnow, nofun, fun _ => rfl, nofun⟩
  | complete hload hline hp hnone =>
    refine ⟨?_, fun _ => rfl, fun _ => rfl, ?_⟩
    · intro text htext
      cases htext
      cases hat : e.completedAt with
      | none => exact ⟨_, hclock, rfl⟩
      | some m => exact ⟨m, hread m hat, rfl⟩
    · intro hw _ steps hmap
      have hw' : r.workflowId = wid := hwid.symm.trans hw
      obtain rfl := Except.ok.inj ((hf.line hchain hsame hw' hload).symm.trans hline)
      obtain ⟨e', hread', rfl⟩ := hf.read
      have hmap' : r.steps.mapM StepRow.read = .ok steps := by
        rw [← refreshed_steps i.news (informed i.news e') r,
          ← List.append_nil (refreshed i.news (informed i.news e') r).steps]
        exact hmap
      rw [(Enrollment.read_eq_ok.1 hread').steps] at hmap'
      cases hmap'
      rw [informed_steps] at hp
      rw [hp, ← hnone]
      rfl
  | recorded hready hcomes hv =>
    cases hv with
    | failed => exact ⟨hnow, nofun, fun _ => rfl, nofun⟩
    | paused => exact ⟨nofun, nofun, nofun, nofun⟩
    | succeeded hsucc hno =>
      refine ⟨hnow, fun _ => rfl, fun _ => rfl, ?_⟩
      intro hw _ steps hmap
      have hw' : r.workflowId = wid := hwid.symm.trans hw
      obtain rfl := Except.ok.inj
        ((hf.line hchain hsame hw' hready.workflow).symm.trans hready.line)
      have hmap' : ((refreshed i.news e r).steps ++ (newSteps e _).map StepRow.ofStep).mapM
          StepRow.read = .ok steps := hmap
      rw [newSteps_of_not_paused e hno] at hmap'
      rw [complete_of_run hs hcomes hsucc hno hmap']
      rfl

/-- **Every command keeps the invariant**, if the workflow was not edited. -/
theorem Command.completed (hchain : d.linearize = .ok chain) (cmd : Command)
    (hcmd : cmd.Sets Moment.IsValid) {s : State σ} (hsame : Unedited wid d s.files)
    (h : AllRows Moment.IsValid (Completed wid chain) s) :
    AllRows Moment.IsValid (Completed wid chain) (cmd.perform c k s) := by
  have hk := k.reply_any
  refine cmd.allRows hk ?_ ?_ ?_ h
  · intro s₁ workflowId source lead overrides w _ _
    exact ⟨nofun, nofun, nofun, nofun⟩
  · intro i hfiles hclock _ r e r' hf hr ht
    exact ht.completed hchain (by rw [hfiles]; exact hsame) hclock hf hr
  · rintro now rfl
    exact hcmd

/-! ### Runs that come too late -/

/-- An enrollment that has succeeded is not ready to be run. -/
theorem Completed.unready (h : Completed wid chain r) (hchain : d.linearize = .ok chain)
    (hsame : Unedited wid d i.before.files) (hf : Found i.before i.id i.news r e)
    (hw : r.workflowId = wid) (hsucc : r.status = .success) {w : Workflow.Record} {chain' : Chain}
    {p : Resumption} : ¬ Ready i.before i.id e w chain' p := by
  intro hready
  obtain rfl := Except.ok.inj ((hf.line hchain hsame hw hready.workflow).symm.trans hready.line)
  obtain ⟨e', hread, rfl⟩ := hf.read
  have hresumes := hready.resumes
  rw [informed_steps] at hresumes
  have hdone := h.complete hw hsucc e'.steps (Enrollment.read_eq_ok.1 hread).steps
  rw [hresumes] at hdone
  have hnone : p.node = none := Except.ok.inj hdone
  have hahead := hready.ahead
  rw [hnone] at hahead
  cases hahead

/-- Ending an enrollment again that has succeeded records what its row says already. -/
theorem Completed.recorded_again (h : Completed wid chain r)
    (hf : Found i.before i.id i.news r e) (hsucc : r.status = .success) (now : Moment) :
    recorded [] .success (some (e.completedAt.getD now)) none r = r := by
  have hkept : some (e.completedAt.getD now).iso = r.completedAt := by
    have hdated := h.dated hsucc
    obtain ⟨hat, -⟩ := hf.completedAt h
    rw [hat] at hdated ⊢
    cases hm : e.completedAt with
    | none =>
      rw [hm] at hdated
      cases hdated
    | some m => rfl
  unfold recorded
  rw [Option.map_some, hkept, Option.map_none, ← h.idle hsucc, List.map_nil, List.append_nil,
    ← hsucc]

/-- **A run of an enrollment that has succeeded changes nothing of its row and asks nobody**, unless
it brings news. -/
theorem Invocation.over (hchain : d.linearize = .ok chain) (i : Invocation σ)
    (hnews : i.news = none) (hsame : Unedited wid d i.before.files)
    (hids : (i.before.rows.map (·.id)).Nodup) (hr : r ∈ i.before.rows) (hid : i.id = r.id)
    (hw : r.workflowId = wid) (hsucc : r.status = .success) (h : Completed wid chain r) :
    r ∈ (i.after c k).rows ∧ i.calls c k = [] := by
  have hk := k.reply_any
  have hrow : ∀ {r' : Row} {e : Enrollment}, Found i.before i.id i.news r' e → r = r' :=
    fun hf => eq_of_find? hids hf.row hr hid.symm
  have hended := advance_ended c hk i
  generalize i.result c k = res at hended
  generalize i.after c k = s' at hended ⊢
  cases hended with
  | unread _ hcalls => exact ⟨hr, hcalls⟩
  | unable hf hcalls =>
    rw [hnews, told_none]
    exact ⟨hr, hcalls⟩
  | flawed hf _ hload hline =>
    obtain rfl := hrow hf
    rw [hf.line hchain hsame hw hload] at hline
    cases hline
  | complete hf hcalls =>
    obtain rfl := hrow hf
    refine ⟨List.mem_map.2 ⟨r, hr, ?_⟩, hcalls⟩
    rw [if_pos hid.symm, hnews]
    exact h.recorded_again hf hsucc i.before.clock
  | faulted hf hready =>
    obtain rfl := hrow hf
    exact absurd hready (h.unready hchain hsame hf hw hsucc)
  | lost hf hready =>
    obtain rfl := hrow hf
    exact absurd hready (h.unready hchain hsame hf hw hsucc)
  | recorded hf hready =>
    obtain rfl := hrow hf
    exact absurd hready (h.unready hchain hsame hf hw hsucc)

end

end Service
end Cadence
