/-
# What the row of an enrollment says

The row of an enrollment never contradicts itself (`carry_consistent`): what it says of status,
times, due time and last step is of a piece, and an enrollment is described as paused exactly if it
has a due time.

If moreover its workflow stays as it is while it has enrollments (`Unedited`), the status says how
far the enrollment has come: it has failed exactly if its last step has, and it has succeeded exactly
if there is no node left to resume at. The invariant for this is `Sealed`: an enrollment that ended
well has come to the last node, and one that failed has a failed step at its end.

Key definitions: `Consistent`, `Settled`, `Unedited`, `Sealed`.
Key theorems: `AllStanding.consistent`, `Invocation.sealed`, `carry_consistent`.
-/
import Cadence.Proofs.Service.Standing

namespace Cadence
namespace Service

open Time
open Enrollment (Row Rows StepRow Status Storable Readable keptFields recorded)

variable {σ : Type}

/-! ### Describing an enrollment -/

theorem run_describe {id : String} {e : Enrollment} {s : State σ}
    (hget : s.rows.get id = .ok (some e)) : ∃ snapshot,
      (describe id : Op σ Enrollment.Snapshot).run s = (.ok snapshot, s) ∧
        (snapshot.isPaused = true ↔
          e.resumeAt.isSome = true ∧ ∃ last ∈ e.steps.getLast?, last.isPaused = true) := by
  have hfind : (findEnrollment id : Op σ Enrollment).run s = (.ok e, s) := by
    rw [run_findEnrollment, hget]
  unfold describe
  rw [run_bind_ok hfind, run_bind_ok (run_get s)]
  cases hlast : e.steps.getLast? with
  | none =>
    refine ⟨_, rfl, ?_⟩
    constructor
    · exact fun h => absurd h Bool.false_ne_true
    · rintro ⟨-, last, hmem, -⟩
      cases hmem
  | some last =>
    refine ⟨_, rfl, ?_⟩
    constructor
    · intro h
      have hboth : (last.isPaused && e.resumeAt.isSome) = true := h
      rw [Bool.and_eq_true] at hboth
      exact ⟨hboth.2, last, rfl, hboth.1⟩
    · rintro ⟨hdue, last', hmem, hp⟩
      cases hmem
      show (last.isPaused && e.resumeAt.isSome) = true
      rw [hp, hdue]
      rfl

/-- What is described could be read. -/
theorem get_of_describe {id : String} {s s' : State σ} {snapshot : Enrollment.Snapshot}
    (h : (describe id : Op σ Enrollment.Snapshot).run s = (.ok snapshot, s')) :
    ∃ e, s.rows.get id = .ok (some e) := by
  unfold describe at h
  rw [run_bind, Op.after, run_findEnrollment] at h
  rcases hget : s.rows.get id with f | _ | e <;> rw [hget] at h
  · cases (Prod.mk.inj h).1
  · cases (Prod.mk.inj h).1
  · exact ⟨e, rfl⟩

/-- A due time is read where there is one. -/
theorem read_resumeAt {r : Row} {e : Enrollment} (h : r.read = .ok e) :
    e.resumeAt.isSome = r.resumeAt.isSome := by
  have hresume := (Enrollment.read_eq_ok.1 h).resumeAt
  cases htext : r.resumeAt with
  | none =>
    rw [htext] at hresume
    rw [← Except.ok.inj hresume]
    rfl
  | some text =>
    rw [htext] at hresume
    obtain ⟨m, -, heq⟩ := map_eq_ok.1 hresume
    rw [← heq]
    rfl

/-! ### Rows do not contradict themselves -/

/-- A row does not contradict itself: it is in progress until it has a time of completion; a due
time is the instant that the last step, a pause, says; a row with steps that is in progress has one;
and the enrollment is described as paused if it has one. -/
structure Consistent (s : State σ) (r : Row) : Prop where
  open_iff : r.status = .inProgress ↔ r.completedAt = none
  due : ∀ text, r.resumeAt = some text → r.status = .inProgress ∧
    ∃ t said m u at_, r.steps.getLast? = some t ∧ t.entry.isPaused = true ∧
      Json.Fields.getD t.output "resumeAt" = .str said ∧ Moment.ofIso? said = some m ∧
      Moment.ofIso? text = some u ∧ m.instant? = some at_ ∧ u.instant? = some at_
  waits : r.status = .inProgress → r.steps ≠ [] → r.resumeAt.isSome = true
  described : (∃ snapshot, (describe r.id : Op σ Enrollment.Snapshot).run s = (.ok snapshot, s) ∧
    snapshot.isPaused = true) ↔ r.resumeAt.isSome = true

section
variable {Q : Moment → Prop} {s : State σ} {r : Row}

/-- An enrollment whose row stands is described, if its time of completion can be read. -/
theorem AllStanding.describes (h : AllStanding Q s) (hr : r ∈ s.rows)
    (hcompleted : ∀ text ∈ r.completedAt, ∃ m, Readable m ∧ text = m.iso) :
    ∃ e snapshot, r = Row.ofEnrollment e ∧ Storable e ∧
      (describe r.id : Op σ Enrollment.Snapshot).run s = (.ok snapshot, s) ∧
        (snapshot.isPaused = true ↔
          e.resumeAt.isSome = true ∧ ∃ last ∈ e.steps.getLast?, last.isPaused = true) := by
  obtain ⟨e, he, heq⟩ := (h.rows r hr).storable hcompleted
  have hid : r.id = e.id := by
    rw [heq]
    rfl
  have hget : s.rows.get r.id = .ok (some e) := by
    rw [hid]
    refine Enrollment.get_of_find? he ?_
    rw [← hid, find?_of_mem h.ids hr, heq]
  obtain ⟨snapshot, hrun, hpaused⟩ := run_describe hget
  exact ⟨e, snapshot, heq, he, hrun, hpaused⟩

/-- **A row that stands does not contradict itself.** -/
theorem AllStanding.consistent (h : AllStanding Q s) (hr : r ∈ s.rows) : Consistent s r := by
  have hstands := h.rows r hr
  refine ⟨hstands.open_iff, ?_, hstands.waits, ?_⟩
  · intro text htext
    obtain ⟨hopen, t, due, u, hlast, huntil, hutc, rfl⟩ := hstands.due text htext
    obtain ⟨hm, hu⟩ := instant?_of_toUtc hutc.known hutc.utc
    have hread : Moment.ofIso? u.iso = some u := by
      rw [ofIso?_iso (toUtc_isValid hutc.valid hutc.utc), kept_of_utc (toUtc_eq hutc.utc).1]
    exact ⟨hopen, t, due.iso, due.kept, u, u.reading, hlast, huntil.paused, huntil.text,
      ofIso?_iso huntil.valid, hread, hm, hu⟩
  · constructor
    · rintro ⟨snapshot, hrun, hpaused⟩
      obtain ⟨e, hget⟩ := get_of_describe hrun
      obtain ⟨snapshot', hrun', hiff⟩ := run_describe hget
      rw [hrun] at hrun'
      obtain rfl : snapshot = snapshot' := Except.ok.inj (Prod.mk.inj hrun').1
      obtain ⟨r', hfind, hread⟩ := get_eq_ok hget
      rw [find?_of_mem h.ids hr] at hfind
      cases hfind
      rw [← read_resumeAt hread]
      exact (hiff.1 hpaused).1
    · intro hdue
      obtain ⟨text, htext⟩ := Option.isSome_iff_exists.1 hdue
      obtain ⟨hopen, t, due, u, hlast, huntil, -⟩ := hstands.due text htext
      have hnone := hstands.open_iff.1 hopen
      obtain ⟨e, snapshot, heq, -, hrun, hiff⟩ := h.describes hr fun text' htext' => by
        rw [hnone] at htext'
        cases htext'
      refine ⟨snapshot, hrun, hiff.2 ⟨?_, ?_⟩⟩
      · rw [heq] at hdue
        unfold Row.ofEnrollment at hdue
        rwa [Option.isSome_map] at hdue
      · rw [heq] at hlast
        unfold Row.ofEnrollment at hlast
        rw [List.getLast?_map] at hlast
        obtain ⟨last, hmem, rfl⟩ := Option.map_eq_some_iff.1 hlast
        exact ⟨last, hmem, huntil.paused⟩

end

/-! ### Workflows that are not edited -/

/-- Whenever the workflow with an id can be loaded, it has a definition. -/
def Unedited (wid : String) (d : Workflow.Definition) (files : Workflow.Files) : Prop :=
  ∀ now w, files.load now wid = .ok (some w) → w.definition = d

/-- Where no command saves or drops a workflow, one that is stored at the start is not edited. -/
theorem carry_unedited {wid : String} {d : Workflow.Definition} {c : Config} {k : Collaborators σ}
    {cmds : List Command} (hcmds : ∀ cmd ∈ cmds, cmd.spares = true) {s : State σ}
    (h : Stored s.files wid d) (n : Nat) : Unedited wid d (carry c k (cmds.take n) s).files := by
  intro now w hload
  rw [carry_files c k (fun cmd hmem => hcmds cmd (List.mem_of_mem_take hmem))] at hload
  obtain ⟨w', hload', hdef⟩ := h now
  rw [hload'] at hload
  cases hload
  exact hdef

/-- The invariant of the row of an enrollment of a chain: its steps are a history, and one that
ended has come to the last node or has a failed step at its end. -/
structure Sealed (chain : Chain) (r : Row) : Prop where
  history : History chain.nodes (r.steps.map StepRow.entry)
  failed : r.status = .failed → ∃ t, r.steps.getLast? = some t ∧ t.status = .failed
  success : r.status = .success → ∃ t before n, r.steps.getLast? = some t ∧
    chain.nodes = before ++ [n] ∧ t.nodeId = n.id ∧ t.status = .success ∧
    t.entry.isPaused = false

/-- The invariant of enrollments of a workflow. -/
structure AllSealed (wid : String) (chain : Chain) (s : State σ) : Prop where
  ids : (s.rows.map (·.id)).Nodup
  rows : ∀ r ∈ s.rows, r.workflowId = wid → Sealed chain r

section
variable {wid : String} {d : Workflow.Definition} {chain : Chain} {c : Config}
  {k : Collaborators σ}

/-- What is read from a row as the enrollment to run has the row's steps. -/
theorem Found.entries {s : State σ} {id : String} {news : Option Lead} {r : Row} {e : Enrollment}
    (h : Found s id news r e) : e.steps.map Step.entry = r.steps.map StepRow.entry := by
  obtain ⟨e', hread, rfl⟩ := h.read
  rw [informed_steps, read_entries hread]

theorem Sealed.refreshed {r : Row} (h : Sealed chain r) (news : Option Lead) (e : Enrollment) :
    Sealed chain (refreshed news e r) := by
  cases news <;> exact ⟨h.history, h.failed, h.success⟩

/-- A chain that is complete has a success of its last node at the end. -/
theorem last_of_complete (hs : chain.Sound) {steps : List Step} {p : Resumption}
    (hh : History chain.nodes (steps.map Step.entry)) (hp : resumption chain steps = .ok p)
    (hnone : p.node = none) : ∃ s before n, steps.getLast? = some s ∧
      chain.nodes = before ++ [n] ∧ s.nodeId = n.id ∧ s.status = .success ∧
      s.isPaused = false := by
  obtain ⟨done, rest, blocks, now, hnodes, hb, hent, hnode, hnow, -⟩ :=
    resumption_history hs hh hp
  rw [hnone] at hnode
  have hrest : rest = [] := by
    cases rest with
    | nil => rfl
    | cons n rest => cases hnode
  have hnil : now = [] := by
    rcases hnow with hnil | ⟨n, rest', heq, -⟩
    · exact hnil
    · rw [hrest] at heq
      cases heq
  rw [hrest, List.append_nil] at hnodes
  rw [hnil, List.append_nil] at hent
  rcases blocks_last hb with ⟨hempty, -⟩ | ⟨before, n, front, entry, hdone, hflat, hentry⟩
  · exact absurd (hnodes.trans hempty) hs.nonempty
  · obtain ⟨s, hlast, rfl⟩ := getLast?_of_entries (hent.trans hflat)
    exact ⟨s, before, n, hlast, hnodes.trans hdone, hentry.1.1, hentry.2.1, hentry.2.2⟩

/-- Behind a success of its last node a chain is complete. -/
theorem complete_of_last (hs : chain.Sound) {steps : List Step} {s : Step}
    {before : List Chain.Node} {n : Chain.Node} (hlast : steps.getLast? = some s)
    (hnodes : chain.nodes = before ++ [n]) (hid : s.nodeId = n.id) (hsucc : s.status = .success)
    (hp : s.isPaused = false) : resumption chain steps = .ok ⟨none, none⟩ := by
  have hindex : (chain.indexOf? s.nodeId).isSome = true := by
    rw [hid, indexOf?_append hs.nodup hnodes]
    rfl
  rw [resumption_of_passed hlast hsucc hp hindex, hid, after?_append hs.nodup hnodes]
  rfl

/-- Ending an enrollment whose chain is complete keeps its row sealed. -/
theorem Found.sealed_completed (hs : chain.Sound) {s : State σ} {id : String} {news : Option Lead}
    {r : Row} {e : Enrollment} (hf : Found s id news r e) (h : Sealed chain r) {p : Resumption}
    (hp : resumption chain e.steps = .ok p) (hnone : p.node = none)
    (completedAt : Option Moment) :
    Sealed chain ((recorded [] .success completedAt none ∘ refreshed news e) r) := by
  have hhist := h.history
  rw [← hf.entries] at hhist
  obtain ⟨s, before, n, hlast, hnodes, hid, hsucc, hpaused⟩ :=
    last_of_complete hs hhist hp hnone
  have hlast' : (e.steps.map Step.entry).getLast? = some s.entry := by
    rw [List.getLast?_map, hlast]
    rfl
  rw [hf.entries, List.getLast?_map] at hlast'
  obtain ⟨t, ht, hent⟩ := Option.map_eq_some_iff.1 hlast'
  have hsteps : ((recorded [] .success completedAt none ∘ refreshed news e) r).steps =
      r.steps := by
    cases news <;> exact List.append_nil _
  refine ⟨hsteps ▸ h.history, fun hfail => (nomatch hfail), fun _ =>
    ⟨t, before, n, (congrArg List.getLast? hsteps).trans ht, hnodes,
      (congrArg Entry.nodeId hent).trans hid, (congrArg Entry.status hent).trans hsucc, ?_⟩⟩
  rw [hent]
  exact hpaused

/-- The report of a run that takes up a history tells of the nodes from some node on. -/
theorem Invocation.closes (hs : chain.Sound) {i : Invocation σ} {e : Enrollment}
    {w : Workflow.Record} {p : Resumption} {report : Report} {h : Bool} {calls : List Exchange}
    (hhist : History chain.nodes (e.steps.map Step.entry))
    (hready : Ready i.before i.id e w chain p)
    (hcomes : (i.plan c h e w chain p).ComesTo Reply.Plain (.ok report) calls) :
    ∃ front nodes ctx, chain.nodes = front ++ nodes ∧ nodes ≠ [] ∧
      Closes Reply.Plain h ctx nodes report report.steps := by
  obtain ⟨n, rest, now, ht⟩ : ∃ n rest now, TakesUp h chain e.steps
      (runOptions c e w p i.ignore i.before.clock) n rest now :=
    takesUp_of_resumption hs hhist hready.resumes hready.ahead rfl rfl h
  obtain ⟨done, blocks, hnodes, -⟩ := ht.split
  unfold Invocation.plan at hcomes
  rw [ht.run] at hcomes
  obtain ⟨steps, hsteps, -, hcloses⟩ := walk_closes rfl rfl hcomes
  have hall : report.steps = steps := hsteps
  rw [hall]
  exact ⟨done, n :: rest, _, hnodes, List.cons_ne_nil _ _, hcloses⟩

/-- Recording the verdict on a run with its new steps keeps the row sealed. -/
theorem Found.sealed_recorded (hs : chain.Sound) {i : Invocation σ} {r : Row} {e : Enrollment}
    {w : Workflow.Record} {p : Resumption} {report : Report} {h : Bool} {calls : List Exchange}
    (hf : Found i.before i.id i.news r e) (hr : Sealed chain r)
    (hready : Ready i.before i.id e w chain p)
    (hcomes : (i.plan c h e w chain p).ComesTo Reply.Plain (.ok report) calls) {now : Moment}
    {status : Status} {completedAt resumeAt : Option Moment}
    (hv : Verdict now report status completedAt resumeAt) :
    Sealed chain ((recorded (newSteps e report) status completedAt resumeAt ∘
      refreshed i.news e) r) := by
  have hhist := hr.history
  rw [← hf.entries] at hhist
  have hsteps : ((recorded (newSteps e report) status completedAt resumeAt ∘
      refreshed i.news e) r).steps = r.steps ++ (newSteps e report).map StepRow.ofStep :=
    congrArg (· ++ _) (refreshed_steps i.news e r)
  -- the last step of a report that does not pause becomes that of the row
  have hlast : ∀ {s : Step}, report.isPaused = false → report.steps.getLast? = some s →
      ((recorded (newSteps e report) status completedAt resumeAt ∘
        refreshed i.news e) r).steps.getLast? = some (StepRow.ofStep s) := by
    intro s hno hlast
    rw [hsteps, newSteps_of_not_paused e hno, List.getLast?_append, List.getLast?_map, hlast]
    rfl
  obtain ⟨front, nodes, ctx, hnodes, hne, hcloses⟩ := Invocation.closes hs hhist hready hcomes
  refine ⟨?_, ?_, ?_⟩
  · rw [hsteps, List.map_append, ← hf.entries, ofStep_entries, ← List.map_append]
    exact Invocation.history hs hhist hready hcomes
  · intro hfail
    cases hv with
    | failed hfailed =>
      obtain ⟨hno, s, hs', hstatus⟩ := hcloses.last_failed hfailed
      exact ⟨StepRow.ofStep s, hlast hno hs', hstatus⟩
    | paused => cases hfail
    | succeeded => cases hfail
  · intro hsucc
    cases hv with
    | failed => cases hsucc
    | paused => cases hsucc
    | succeeded hsucceeded hno =>
      obtain ⟨s, before, n, hs', rfl, hid, hpassed⟩ :=
        hcloses.last_passed hsucceeded hno hne
      refine ⟨StepRow.ofStep s, front ++ before, n, hlast hno hs', ?_, hid, hpassed.1,
        hpassed.2⟩
      rw [hnodes, List.append_assoc]

/-- The workflow of an enrollment is the one that was never edited. -/
theorem Found.line {i : Invocation σ} {r : Row} {e : Enrollment} (hchain : d.linearize = .ok chain)
    (hsame : Unedited wid d i.before.files) (hf : Found i.before i.id i.news r e)
    (hw : r.workflowId = wid) {w : Workflow.Record}
    (hload : i.before.files.load i.before.clock.universal e.workflowId = .ok (some w)) :
    w.definition.linearize = .ok chain := by
  rw [hf.ids.2, hw] at hload
  rw [hsame _ w hload, hchain]

/-- A run leaves the row that it touches sealed. -/
theorem Touched.sealed {i : Invocation σ} {r : Row} {e : Enrollment}
    (hchain : d.linearize = .ok chain) (hsame : Unedited wid d i.before.files)
    (hf : Found i.before i.id i.news r e) (hw : r.workflowId = wid) (hr : Sealed chain r) {r' : Row}
    (ht : Touched Reply.Plain c k i r e r') : Sealed chain r' := by
  have hsound := Workflow.linearize_sound hchain
  cases ht with
  | told => exact hr.refreshed i.news e
  | flawed hload hflaw =>
    rw [hf.line hchain hsame hw hload] at hflaw
    cases hflaw
  | complete hload hline hp hnone =>
    obtain rfl := Except.ok.inj ((hf.line hchain hsame hw hload).symm.trans hline)
    exact hf.sealed_completed hsound hr hp hnone _
  | recorded hready hcomes hv =>
    obtain rfl := Except.ok.inj ((hf.line hchain hsame hw hready.workflow).symm.trans hready.line)
    exact hf.sealed_recorded hsound hr hready hcomes hv

/-- **A run keeps what is sealed**, if the workflow was not edited. -/
theorem Invocation.sealed (hk : k.Reply Reply.Plain) (hchain : d.linearize = .ok chain)
    (i : Invocation σ) (hsame : Unedited wid d i.before.files) (h : AllSealed wid chain i.before) :
    AllSealed wid chain (i.after c k) := by
  refine ⟨by rw [i.ids]; exact h.ids, ?_⟩
  refine i.forall_rows hk h.ids (fun r e r' hf hr ht hw => ?_) h.rows
  have hw' : r.workflowId = wid := ht.workflowId.symm.trans hw
  exact ht.sealed hchain hsame hf hw' (hr hw')

/-- A new enrollment has no steps and is in progress. -/
theorem Registered.sealed {s s' : State σ} {w : Workflow.Record} {lead : Lead} {source : String}
    {overrides : Overrides} (hr : Registered s (newcomer s w lead source overrides) s')
    (h : AllSealed wid chain s) : AllSealed wid chain s' := by
  refine ⟨hr.ids h.ids, ?_⟩
  rw [hr.rows]
  intro r hmem hw
  rcases List.mem_append.1 hmem with hmem | hmem
  · exact h.rows r hmem hw
  · rw [List.mem_singleton.1 hmem]
    exact ⟨.nil chain.nodes, fun hfail => (by cases hfail), fun hsucc => (by cases hsucc)⟩

/-- **Every command keeps what is sealed**, if the workflow was not edited. -/
theorem Command.sealed (hk : k.Reply Reply.Plain) (hchain : d.linearize = .ok chain)
    (cmd : Command) {s : State σ} (hsame : Unedited wid d s.files) (h : AllSealed wid chain s) :
    AllSealed wid chain (cmd.perform c k s) := by
  refine cmd.keeps ?_ ?_ ?_ ?_ ?_ h
  · intro s₁ s₂ hrows _ h
    exact ⟨by rw [hrows]; exact h.ids, by rw [hrows]; exact h.rows⟩
  · intro s₁ s₂ workflowId source lead overrides w _ hr h
    exact hr.sealed h
  · intro i hfiles _ h
    exact i.sealed hk hchain (by rw [hfiles]; exact hsame) h
  · intro s₁ s₂ id hrows _ h
    refine ⟨?_, ?_⟩
    · rw [hrows]
      exact h.ids.sublist (List.filter_sublist.map _)
    · rw [hrows]
      exact fun r hr => h.rows r (List.mem_of_mem_filter hr)
  · intro s₁ now _ h
    exact ⟨h.ids, h.rows⟩

theorem carry_sealed (hk : k.Reply Reply.Plain) (hchain : d.linearize = .ok chain) :
    ∀ (cmds : List Command) {s : State σ},
      (∀ n, Unedited wid d (carry c k (cmds.take n) s).files) → AllSealed wid chain s →
        AllSealed wid chain (carry c k cmds s)
  | [], _, _, h => h
  | cmd :: cmds, _, hsame, h =>
    carry_sealed hk hchain cmds (fun n => hsame (n + 1)) (cmd.sealed hk hchain (hsame 0) h)

end

/-! ### The invariant of all rows -/

/-- The status of an enrollment of a chain says how far it has come. -/
structure Settled (chain : Chain) (r : Row) : Prop where
  failed_iff : r.status = .failed ↔ ∃ t, r.steps.getLast? = some t ∧ t.status = .failed
  success_iff : ∃ steps, r.steps.mapM StepRow.read = .ok steps ∧
    (r.status = .success ↔ (resumption chain steps).map (·.node) = .ok none)

/-- A row with steps that is in progress ends with a pause. -/
theorem Standing.last_of_open {Q : Moment → Prop} {r : Row} (h : Standing Q r)
    (hopen : r.status = .inProgress) {t : StepRow} (hlast : r.steps.getLast? = some t) :
    t.status = .success ∧ t.entry.isPaused = true := by
  have hne : r.steps ≠ [] := by
    intro hnil
    rw [hnil] at hlast
    cases hlast
  obtain ⟨text, htext⟩ := Option.isSome_iff_exists.1 (h.waits hopen hne)
  obtain ⟨-, t', due, -, hlast', huntil, -⟩ := h.due text htext
  obtain rfl := Option.some.inj (hlast.symm.trans hlast')
  exact ⟨huntil.status, huntil.paused⟩

/-- **The status of a row that stands and is sealed says how far the enrollment has come.** -/
theorem Standing.settled {Q : Moment → Prop} {r : Row} {chain : Chain} (hs : chain.Sound)
    (h : Standing Q r) (h' : Sealed chain r) : Settled chain r := by
  obtain ⟨steps, hread, hsteps⟩ := Enrollment.steps_of_times h.times
  have hhist : History chain.nodes (steps.map Step.entry) := by
    have hhist := h'.history
    rwa [hsteps, ofStep_entries] at hhist
  have hlast : ∀ s ∈ steps.getLast?, r.steps.getLast? = some (StepRow.ofStep s) := by
    intro s hs
    rw [hsteps, List.getLast?_map, show steps.getLast? = some s from hs]
    rfl
  refine ⟨⟨h'.failed, ?_⟩, steps, by rw [hsteps]; exact Enrollment.read_steps hread, ?_, ?_⟩
  · rintro ⟨t, ht, hfail⟩
    cases hstatus : r.status with
    | failed => rfl
    | inProgress => exact absurd ((h.last_of_open hstatus ht).1.symm.trans hfail) (by decide)
    | success =>
      obtain ⟨t', before, n, ht', -, -, hsucc, -⟩ := h'.success hstatus
      obtain rfl := Option.some.inj (ht.symm.trans ht')
      exact absurd (hsucc.symm.trans hfail) (by decide)
  · intro hstatus
    obtain ⟨t, before, n, ht, hnodes, hid, hsucc, hpaused⟩ := h'.success hstatus
    rw [hsteps, List.getLast?_map] at ht
    obtain ⟨s, hs', rfl⟩ := Option.map_eq_some_iff.1 ht
    rw [complete_of_last hs hs' hnodes hid hsucc hpaused]
    rfl
  · intro hp
    obtain ⟨p, hp, hnone⟩ := map_eq_ok.1 hp
    obtain ⟨s, before, n, hs', -, -, hsucc, hpaused⟩ := last_of_complete hs hhist hp hnone
    cases hstatus : r.status with
    | success => rfl
    | inProgress =>
      have hyes := (h.last_of_open hstatus (hlast s hs')).2
      exact absurd (hpaused.symm.trans hyes) Bool.false_ne_true
    | failed =>
      obtain ⟨t, ht, hfail⟩ := h'.failed hstatus
      obtain rfl := Option.some.inj ((hlast s hs').symm.trans ht)
      exact absurd (hsucc.symm.trans hfail) (by decide)

/-- **Rows never contradict themselves.** Starting without enrollments, whatever is done with the
service and its workflows, with a clock that knows its offset and collaborators that do not claim to
pause a run:

* status, time of completion, due time, last step and description of an enrollment fit together;
* if its workflow was a chain and was never edited, the enrollment has failed exactly if its last
  step has, and succeeded exactly if no node is left to resume at;
* it can be described, if the clock only ever had offsets of whole minutes. -/
theorem carry_consistent {c : Config} {k : Collaborators σ} (hk : k.Reply Reply.Plain)
    {s : State σ} (hrows : s.rows = []) (hclock : Aware s.clock) {cmds : List Command}
    (hcmds : ∀ cmd ∈ cmds, cmd.Proper Aware) :
    (∀ r ∈ (carry c k cmds s).rows, Consistent (carry c k cmds s) r) ∧
    (∀ wid d chain, d.linearize = .ok chain →
      (∀ n, Unedited wid d (carry c k (cmds.take n) s).files) →
      ∀ r ∈ (carry c k cmds s).rows, r.workflowId = wid → Settled chain r) ∧
    (Decode.WholeMinutes s.clock → (∀ cmd ∈ cmds, cmd.Proper Decode.WholeMinutes) →
      ∀ r ∈ (carry c k cmds s).rows, ∃ snapshot,
        (describe r.id : Op σ Enrollment.Snapshot).run (carry c k cmds s) =
          (.ok snapshot, carry c k cmds s)) := by
  have hempty : ∀ {Q : Moment → Prop}, Q s.clock → AllStanding Q s := by
    intro Q hq
    refine ⟨hq, ?_, ?_⟩ <;> rw [hrows]
    · exact List.nodup_nil
    · exact fun r hr => absurd hr List.not_mem_nil
  have hstanding : AllStanding Aware (carry c k cmds s) :=
    carry_standing hk (fun _ hm => hm) cmds hcmds (hempty hclock)
  refine ⟨fun r hr => hstanding.consistent hr, ?_, ?_⟩
  · intro wid d chain hchain hsame r hr hw
    have hsealed : AllSealed wid chain (carry c k cmds s) := by
      refine carry_sealed hk hchain cmds hsame ⟨(hempty hclock).ids, ?_⟩
      rw [hrows]
      exact fun r hr => absurd hr List.not_mem_nil
    exact (hstanding.rows r hr).settled (Workflow.linearize_sound hchain) (hsealed.rows r hr hw)
  · intro hminutes hall r hr
    have hboth : AllStanding (fun m => Aware m ∧ Decode.WholeMinutes m) (carry c k cmds s) := by
      refine carry_standing hk (fun _ hm => hm.1) cmds ?_ (hempty ⟨hclock, hminutes⟩)
      exact fun cmd hmem => (hcmds cmd hmem).and (hall cmd hmem)
    have hcompleted := (hboth.rows r hr).completedAt fun _ hm => hm.2
    obtain ⟨e, snapshot, -, -, hrun, -⟩ := hboth.describes hr hcompleted
    exact ⟨snapshot, hrun⟩

namespace Sample

theorem spares : ∀ cmd ∈ operations.map Command.operate, cmd.spares = true := by
  intro cmd hcmd
  obtain ⟨op, -, rfl⟩ := List.mem_map.1 hcmd
  rfl

theorem proper : ∀ cmd ∈ operations.map Command.operate, cmd.Proper Aware := by
  intro cmd hcmd
  simp only [operations, List.map_cons, List.map_nil, List.mem_cons, List.not_mem_nil,
    or_false] at hcmd
  rcases hcmd with rfl | rfl | rfl | rfl
  · exact ⟨whole, .none, .none⟩
  · exact fun lead hlead => by cases hlead
  · exact aware_of_utc (by decide) (by decide)
  · exact fun lead hlead => by cases hlead

end Sample

/-- The row of the sample's enrollment, which was advanced too early and then in time. -/
theorem carry_consistent_sample :
    let after := carry Sample.config Sample.collaborators
      (Sample.operations.map Command.operate) Sample.service
    after.rows.map (fun r => (r.status, r.steps.length)) = [(.success, 5)] ∧
      ∀ r ∈ after.rows, Consistent after r ∧ Settled Sample.chain r := by
  intro after
  obtain ⟨hconsistent, hsettled, -⟩ := carry_consistent (c := Sample.config)
    Sample.collaborators_plain (s := Sample.service) rfl (aware_of_utc (by decide) (by decide))
    Sample.proper
  refine ⟨by decide +kernel, fun r hr => ⟨hconsistent r hr, ?_⟩⟩
  have hwid : ∀ r ∈ after.rows, r.workflowId = "flow" := by decide +kernel
  exact hsettled "flow" Sample.definition Sample.chain Sample.linearize_definition
    (carry_unedited Sample.spares Sample.stored) r hr (hwid r hr)

end Service
end Cadence
