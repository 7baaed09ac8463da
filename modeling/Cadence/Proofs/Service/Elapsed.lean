/-
# No wait is over early

The due time of a wait goes a long way: it is written into the step that pauses the run, stored, read
back by the next run, which may come too early and pause again, and written into the step with which
the wait is over. On this way it stays the same, and it is what it was at first, the time of the run
that began the wait plus the waiting time. So a wait that is over has lasted as long as it was to
last (`carry_elapsed`). This needs nothing of the collaborators, of the timers or of the order of
commands, only that the workflow of the enrollment was never edited.

The statements speak of the runs that there have been: `Began` and `Elapsed` name the runs that
recorded the steps of a wait. The invariant is `Timed`; it holds step by step, and a run has to keep
it only for the steps that it adds (`Invocation.timely`). A run that comes back to a wait too early
adds none.

The text of a moment loses an offset below one second. `Moment.kept` is what is read back from it, the
moment itself for all other offsets.

Key definitions: `Invocation.Records`, `Began`, `Elapsed`, `Timely`, `Timed`.
Key theorems: `Invocation.timely`, `Command.timed`, `carry_elapsed`.
-/
import Cadence.Proofs.Run.Waits
import Cadence.Proofs.Service.Polled
import Cadence.Proofs.Service.Settled

namespace Cadence
namespace Service

open Time
open Enrollment (Row Rows StepRow)

variable {σ : Type}

/-! ### Steps and the runs that recorded them -/

/-- A run added a step to an enrollment, at a position of its history. -/
structure Invocation.Records (c : Config) (k : Collaborators σ) (i : Invocation σ) (id : String)
    (j : Nat) (t : StepRow) : Prop where
  ran : i.id = id
  before : ∀ r ∈ i.before.rows, r.id = id → r.steps.length ≤ j
  after : ∃ r ∈ (i.after c k).rows, r.id = id ∧ r.steps[j]? = some t

/-- When a stored step says that it is due. -/
def dueText (t : StepRow) : Json := Json.Fields.getD t.output "resumeAt"

/-- A step of an enrollment's history began a wait: one of the runs recorded it, and paused until its
time plus the waiting time. -/
structure Began (c : Config) (k : Collaborators σ) (runs : List (Invocation σ)) (id : String)
    (amount : Int) (unit : WaitUnit) (j : Nat) (t : StepRow) (due : Moment) : Prop where
  paused : t.entry.isPaused = true
  text : dueText t = .str due.iso
  valid : due.IsValid
  recorded : ∃ i ∈ runs, i.Records c k id j t ∧
    dueAfter i.before.clock amount unit = .ok due

/-- A wait was over with a step of an enrollment's history: the step before it is the one that began
the wait, both say the same due time, and the run that recorded it did not happen before that. -/
structure Elapsed (c : Config) (k : Collaborators σ) (runs : List (Invocation σ)) (id : String)
    (steps : List StepRow) (amount : Int) (unit : WaitUnit) (j : Nat) (t p : StepRow)
    (due : Moment) : Prop where
  before : ∃ j', j = j' + 1 ∧ steps[j']? = some p ∧ Began c k runs id amount unit j' p due
  node : p.nodeId = t.nodeId
  text : dueText t = .str due.kept.iso
  same : (∀ o ∈ due.offset, o = 0 ∨ second ≤ o.natAbs) → dueText t = dueText p
  recorded : ∃ i ∈ runs, i.Records c k id j t ∧ due.kept.le? i.before.clock = some true

section
variable {c : Config} {k : Collaborators σ} {runs runs' : List (Invocation σ)} {id : String}
  {steps : List StepRow} {amount : Int} {unit : WaitUnit} {j : Nat} {t p : StepRow} {due : Moment}

theorem Began.mono (h : Began c k runs id amount unit j t due) (hsub : runs ⊆ runs') :
    Began c k runs' id amount unit j t due := by
  obtain ⟨i, hi, hrecords, hdue⟩ := h.recorded
  exact ⟨h.paused, h.text, h.valid, i, hsub hi, hrecords, hdue⟩

theorem Elapsed.mono (h : Elapsed c k runs id steps amount unit j t p due) (hsub : runs ⊆ runs')
    (new : List StepRow) : Elapsed c k runs' id (steps ++ new) amount unit j t p due := by
  obtain ⟨j', hj, hp, hbegan⟩ := h.before
  obtain ⟨i, hi, hrecords, hle⟩ := h.recorded
  obtain ⟨hlt, -⟩ := List.getElem?_eq_some_iff.1 hp
  refine ⟨⟨j', hj, ?_, hbegan.mono hsub⟩, h.node, h.text, h.same, i, hsub hi, hrecords, hle⟩
  rw [List.getElem?_append_left hlt]
  exact hp

end

/-! ### The invariant -/

/-- What is known of a step of an enrollment of a chain: a pause of a wait began it, and where a wait
was over, it has elapsed. -/
structure Timely (c : Config) (k : Collaborators σ) (chain : Chain) (runs : List (Invocation σ))
    (id : String) (steps : List StepRow) (j : Nat) (t : StepRow) : Prop where
  began : ∀ n ∈ chain.nodes, ∀ amount unit, n.config = .wait amount unit → t.nodeId = n.id →
    t.entry.isPaused = true → ∃ due, Began c k runs id amount unit j t due
  elapsed : ∀ n ∈ chain.nodes, ∀ amount unit, n.config = .wait amount unit → t.nodeId = n.id →
    t.entry.isResumed = true → ∃ p due, Elapsed c k runs id steps amount unit j t p due

/-- The invariant of all steps of the enrollments of a workflow, with the runs so far. -/
structure Timed (c : Config) (k : Collaborators σ) (wid : String) (chain : Chain)
    (runs : List (Invocation σ)) (s : State σ) : Prop where
  clock : Known s.clock
  ids : (s.rows.map (·.id)).Nodup
  steps : ∀ r ∈ s.rows, r.workflowId = wid → ∀ j t, r.steps[j]? = some t →
    Timely c k chain runs r.id r.steps j t

section
variable {c : Config} {k : Collaborators σ} {wid : String} {d : Workflow.Definition}
  {chain : Chain} {runs : List (Invocation σ)}

theorem Timely.mono {runs' : List (Invocation σ)} {id : String} {steps : List StepRow} {j : Nat}
    {t : StepRow} (h : Timely c k chain runs id steps j t) (hsub : runs ⊆ runs')
    (new : List StepRow) : Timely c k chain runs' id (steps ++ new) j t := by
  refine ⟨?_, ?_⟩
  · intro n hn amount unit hc hid hp
    obtain ⟨due, hbegan⟩ := h.began n hn amount unit hc hid hp
    exact ⟨due, hbegan.mono hsub⟩
  · intro n hn amount unit hc hid hresumed
    obtain ⟨p, due, helapsed⟩ := h.elapsed n hn amount unit hc hid hresumed
    exact ⟨p, due, helapsed.mono hsub new⟩

/-- Where an enrollment got further steps, they alone have to be looked at. -/
theorem Timed.grew {i : Invocation σ} {new : List StepRow}
    (h : Timed c k wid chain runs i.before) (hgrew : Grew i.id new i.before (i.after c k))
    (hnew : ∀ r ∈ i.before.rows, r.id = i.id → r.workflowId = wid → ∀ m t, new[m]? = some t →
      i.Records c k r.id (r.steps.length + m) t →
        Timely c k chain (runs ++ [i]) r.id (r.steps ++ new) (r.steps.length + m) t) :
    Timed c k wid chain (runs ++ [i]) (i.after c k) := by
  refine ⟨by rw [hgrew.clock]; exact h.clock, by rw [hgrew.rows.ids]; exact h.ids, ?_⟩
  intro r' hr' hw j t ht
  obtain ⟨r, hr, hid, hwid, hsteps⟩ := hgrew.rows.mem hr'
  rw [hwid] at hw
  have hold : ∀ more, r.steps[j]? = some t →
      Timely c k chain (runs ++ [i]) r.id (r.steps ++ more) j t :=
    fun more hj => (h.steps r hr hw j t hj).mono (List.subset_append_left _ _) more
  rw [hid]
  by_cases heq : r.id = i.id
  · rw [if_pos heq] at hsteps
    have ht' := ht
    rw [hsteps] at ht' ⊢
    by_cases hj : j < r.steps.length
    · rw [List.getElem?_append_left hj] at ht'
      exact hold new ht'
    · obtain ⟨m, rfl⟩ : ∃ m, j = r.steps.length + m := ⟨j - r.steps.length, by omega⟩
      rw [List.getElem?_append_right (by omega), Nat.add_sub_cancel_left] at ht'
      refine hnew r hr heq hw m t ht' ⟨heq.symm, ?_, r', hr', hid, ht⟩
      intro r₀ hr₀ hid₀
      rw [List.inj_on_of_nodup_map h.ids hr₀ hr hid₀]
      exact Nat.le_add_right _ _
  · rw [if_neg heq] at hsteps
    rw [hsteps] at ht ⊢
    have hall := hold [] ht
    rwa [List.append_nil] at hall

/-! ### What a run adds -/

/-- The pause that a run comes back to is the last step of the row. -/
theorem row_of_behind {e : Enrollment} {r : Row} {n : Chain.Node} {due : Moment}
    (hb : Behind e.steps n due) (hentries : e.steps.map Step.entry = r.steps.map StepRow.entry) :
    ∃ j t, ∃ last : Step, r.steps.length = j + 1 ∧ r.steps[j]? = some t ∧ t.entry = last.entry ∧
      last.nodeId = n.id ∧ last.isPaused = true ∧ last.due? = .ok (some (.at due)) := by
  obtain ⟨last, hlast, -, hpaused, hid, hdue⟩ := hb.last
  obtain ⟨t, ht, hsame⟩ := last_of_entries hentries hlast
  rw [List.getLast?_eq_getElem?] at ht
  obtain ⟨hlt, -⟩ := List.getElem?_eq_some_iff.1 ht
  exact ⟨r.steps.length - 1, t, last, by omega, ht, hsame, hid, hpaused, hdue⟩

/-- The pause that a run comes back to has begun its wait, and the due time that is read is the one
that was written. -/
theorem began_of_behind {e : Enrollment} {r : Row} {n : Chain.Node} {due : Moment}
    (hb : Behind e.steps n due) (hentries : e.steps.map Step.entry = r.steps.map StepRow.entry)
    (hold : ∀ j t, r.steps[j]? = some t → Timely c k chain runs r.id r.steps j t)
    (hn : n ∈ chain.nodes) {amount : Int} {unit : WaitUnit} (hc : n.config = .wait amount unit) :
    ∃ j t due₀, r.steps.length = j + 1 ∧ r.steps[j]? = some t ∧ t.nodeId = n.id ∧
      Began c k runs r.id amount unit j t due₀ ∧ due₀.kept = due := by
  obtain ⟨j, t, last, hlen, ht, hentry, hid, hpaused, hread⟩ := row_of_behind hb hentries
  have htid : t.nodeId = n.id := (congrArg Entry.nodeId hentry).trans hid
  obtain ⟨due₀, hbegan⟩ := (hold j t ht).began n hn amount unit hc htid
    ((congrArg Entry.isPaused hentry).trans hpaused)
  have htext : last.get "resumeAt" = .str due₀.iso := by
    have houtput : t.output = last.output := congrArg Entry.output hentry
    have htext := hbegan.text
    unfold dueText at htext
    rwa [houtput] at htext
  rw [due?_of_iso htext (ofIso?_iso hbegan.valid)] at hread
  exact ⟨j, t, due₀, hlen, ht, htid, hbegan, Due.at.inj (Option.some.inj (Except.ok.inj hread))⟩

/-- A run that comes back to a wait too early adds no step. -/
theorem newSteps_of_again {e : Enrollment} {report : Report} {n : Chain.Node} {due : Moment}
    {s : Step} (hb : Behind e.steps n due) (hone : report.steps = [s])
    (hyes : report.isPaused = true) (hid : s.nodeId = n.id) : newSteps e report = [] := by
  obtain ⟨last, hlast, -, hlastPaused, hlastId, -⟩ := hb.last
  have hstill : stillWaits e report = true :=
    stillWaits_iff.2 ⟨hyes, s, last, hone, hlast, hlastPaused, hlastId.trans hid.symm⟩
  unfold newSteps
  rw [if_pos hstill]

/-- What the steps of waits say in the report of a run. -/
theorem Invocation.tookUp (hs : chain.Sound) {i : Invocation σ} (hclock : Known i.before.clock)
    {e : Enrollment} {w : Workflow.Record} {p : Resumption} {report : Report} {h : Bool}
    {calls : List Exchange} {P : Reply → Prop} (hready : Ready i.before i.id e w chain p)
    (hcomes : (i.plan c h e w chain p).ComesTo P (.ok report) calls) {m : Nat} {s : Step}
    (hm : report.steps[m]? = some s) {n : Chain.Node} (hn : n ∈ chain.nodes) {amount : Int}
    {unit : WaitUnit} (hc : n.config = .wait amount unit) (hid : s.nodeId = n.id) :
    TookUp e.steps i.before.clock report n amount unit m s := by
  have hrun := run_waits hs hready.resumes rfl rfl rfl hcomes hm hn hc hid
  have hnow : i.before.clock.assumeUtc = i.before.clock := assumeUtc_of_known hclock.known
  rw [← hnow]
  exact hrun

/-- **A run adds only steps that are timely.** A wait that begins pauses until its time from the clock
of this run; one that was reached before goes on without a further step, or it is over and its due
time is that of the step before. -/
theorem Invocation.timely (hs : chain.Sound) {i : Invocation σ} (hclock : Known i.before.clock)
    {r : Row} {e : Enrollment} {w : Workflow.Record} {p : Resumption} {report : Report} {h : Bool}
    {calls : List Exchange} {P : Reply → Prop}
    (hentries : e.steps.map Step.entry = r.steps.map StepRow.entry)
    (hready : Ready i.before i.id e w chain p)
    (hcomes : (i.plan c h e w chain p).ComesTo P (.ok report) calls)
    (hold : ∀ j t, r.steps[j]? = some t → Timely c k chain runs r.id r.steps j t) {m : Nat}
    {t : StepRow} (ht : ((newSteps e report).map StepRow.ofStep)[m]? = some t)
    (hrecords : i.Records c k r.id (r.steps.length + m) t) :
    Timely c k chain (runs ++ [i]) r.id
      (r.steps ++ (newSteps e report).map StepRow.ofStep) (r.steps.length + m) t := by
  rw [List.getElem?_map] at ht
  obtain ⟨s, hnew, rfl⟩ := Option.map_eq_some_iff.1 ht
  have hmem : i ∈ runs ++ [i] := List.mem_append_right _ List.mem_cons_self
  -- all steps of the report were added, or there would be no new one
  have hstill : newSteps e report = report.steps := by
    rcases newSteps_cases e report with hall | ⟨hnone, -⟩
    · exact hall
    · rw [hnone] at hnew
      cases hnew
  have hsteps := hnew
  rw [hstill] at hsteps
  refine ⟨?_, ?_⟩
  · intro n hn amount unit hc hid hpaused
    cases Invocation.tookUp hs hclock hready hcomes hsteps hn hc hid with
    | begun _ hdue _ _ htext =>
      exact ⟨_, hpaused, htext, (dueAfter_isValid hclock.valid hdue).1, i, hmem, hrecords, hdue⟩
    | again hb hone hyes =>
      rw [newSteps_of_again hb hone hyes hid] at hnew
      cases hnew
    | elapsed _ _ _ hresumed => exact absurd (hresumed.1.2.2.symm.trans hpaused) (by decide)
  · intro n hn amount unit hc hid hresumed
    cases Invocation.tookUp hs hclock hready hcomes hsteps hn hc hid with
    | begun _ _ _ hno => exact absurd (hno.symm.trans hresumed) (by decide)
    | again _ _ _ _ _ hno => exact absurd (hno.symm.trans hresumed) (by decide)
    | elapsed hb hm hle hresumed' htext =>
      obtain ⟨j, t, due₀, hlen, ht, htid, hbegan, rfl⟩ := began_of_behind hb hentries hold hn hc
      refine ⟨t, due₀, ⟨j, by omega, ?_, hbegan.mono (List.subset_append_left _ _)⟩,
        htid.trans hid.symm, htext, ?_, i, hmem, hrecords, hle⟩
      · rw [List.getElem?_append_left (by omega)]
        exact ht
      · intro hwhole
        have hkept : due₀.kept = due₀ :=
          Moment.kept_of_wholeSecond fun o ho => (hwhole o ho).imp_right fun hle => by
            unfold second at hle
            omega
        rw [hkept] at htext
        rw [hbegan.text]
        exact htext

/-- **A run of an enrollment keeps all steps timely**, if the workflow was not edited. -/
theorem Invocation.timed (hchain : d.linearize = .ok chain) (i : Invocation σ)
    (hsame : Unedited wid d i.before.files) (h : Timed c k wid chain runs i.before) :
    Timed c k wid chain (runs ++ [i]) (i.after c k) := by
  have hsound := Workflow.linearize_sound hchain
  have hk := k.reply_any
  have hnone : ∀ r ∈ i.before.rows, r.id = i.id → r.workflowId = wid → ∀ m (t : StepRow),
      ([] : List StepRow)[m]? = some t → i.Records c k r.id (r.steps.length + m) t →
        Timely c k chain (runs ++ [i]) r.id (r.steps ++ []) (r.steps.length + m) t :=
    fun r _ _ _ m t ht => by cases ht
  cases advance_cases c hk i with
  | idle _ hgrew => exact h.grew hgrew hnone
  | faulted _ _ hgrew => exact h.grew hgrew hnone
  | lost _ _ _ _ _ hgrew => exact h.grew hgrew hnone
  | recorded hready hcomes hgrew =>
    rename_i e w chain' p report
    refine h.grew hgrew ?_
    intro r hr hid hw m t ht hrecords
    obtain ⟨r', e', hfind, hread, hsteps, hwid, -⟩ := hready.stored
    obtain rfl := eq_of_find? h.ids hfind hr hid
    have hline := hready.line
    rw [hsame _ w (by rw [← hw, ← hwid]; exact hready.workflow), hchain] at hline
    obtain rfl := Except.ok.inj hline
    exact Invocation.timely hsound h.clock (by rw [hsteps]; exact read_entries hread) hready hcomes
      (h.steps r hr hw) ht hrecords

/-- **Every command keeps all steps timely**, if the workflow was not edited. -/
theorem Command.timed (hchain : d.linearize = .ok chain) (cmd : Command) (hcmd : cmd.Sets Known)
    {s : State σ} (hsame : Unedited wid d s.files) (h : Timed c k wid chain runs s) :
    Timed c k wid chain (runs ++ cmd.invocations c k s) (cmd.perform c k s) := by
  refine cmd.logs runs ?_ ?_ ?_ ?_ ?_ h
  · intro runs s₁ s₂ hrows hclock h
    exact ⟨by rw [hclock]; exact h.clock, by rw [hrows]; exact h.ids, by rw [hrows]; exact h.steps⟩
  · intro runs s₁ s₂ workflowId source lead overrides w _ hr h
    refine ⟨by rw [hr.clock]; exact h.clock, hr.ids h.ids, ?_⟩
    rw [hr.rows]
    intro r hmem hw j t ht
    rcases List.mem_append.1 hmem with hmem | hmem
    · exact h.steps r hmem hw j t ht
    · rw [List.mem_singleton.1 hmem] at ht
      cases ht
  · intro i runs hfiles _ h
    exact i.timed hchain (by rw [hfiles]; exact hsame) h
  · intro runs s₁ s₂ id hrows hclock h
    refine ⟨by rw [hclock]; exact h.clock, ?_, ?_⟩
    · rw [hrows]
      exact h.ids.sublist (List.filter_sublist.map _)
    · rw [hrows]
      exact fun r hr => h.steps r (List.mem_of_mem_filter hr)
  · intro runs s₁ now heq h
    rw [heq] at hcmd
    exact ⟨hcmd, h.ids, h.steps⟩

end

end Service
end Cadence
