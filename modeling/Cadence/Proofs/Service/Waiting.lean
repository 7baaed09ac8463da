/-
# Enrollments that wait

An enrollment that is paused at a wait stays as it is until the wait is over. A run that comes too
early starts at the wait again, asks nobody, and pauses until the same moment: the due time that was
written into the last step is read back, and in universal time it is the text that the row has
already. So the run records what is recorded, and sets the timer again (`Invocation.early`).

All of this is a matter of one row, and it takes an invariant of rows (`Waiting`): they can be read,
and where a wait paused an enrollment, the last step and the due time are of a piece. The invariant
speaks of waits only. A reply that claims to pause the run may leave anything in its step.

Key definitions: `AtWait`, `Waiting`, `Rests`.
Key theorems: `until_of_new`, `until_of_again`, `until_of_last`, `Touched.waiting`,
`Command.waiting`, `Invocation.early`.
-/
import Cadence.Proofs.Service.Completed
import Cadence.Proofs.Service.Elapsed
import Cadence.Proofs.Timer.Delay

namespace Cadence
namespace Service

open Time
open Enrollment (Row Rows StepRow Readable recorded)

variable {σ : Type}

/-- A stored step is that of a wait of a chain. -/
def AtWait (chain : Chain) (t : StepRow) : Prop :=
  ∃ n ∈ chain.nodes, t.nodeId = n.id ∧ ∃ amount unit, n.config = .wait amount unit

/-- The invariant of a row: it can be read and has not both a due time and a time of completion;
steps with which a wait paused the enrollment say until when; and the due time is that of the last
step, a pause, if it is one of a wait. -/
structure Waiting (wid : String) (chain : Chain) (r : Row) : Prop where
  legible : r.Legible
  opened : r.resumeAt.isSome = true → r.status = .inProgress ∧ r.completedAt = none
  dated : r.workflowId = wid → ∀ t ∈ r.steps, t.entry.isPaused = true → AtWait chain t →
    ∃ due, Until t due
  due : r.workflowId = wid → ∀ text ∈ r.resumeAt, ∃ t, r.steps.getLast? = some t ∧
    t.entry.isPaused = true ∧
      (AtWait chain t → ∃ due u, Until t due ∧ InUtc due.kept u ∧ text = u.iso)

/-- An enrollment is paused at a wait of its chain, until a moment. -/
structure Rests (chain : Chain) (r : Row) (u : Moment) : Prop where
  due : ∃ text, r.resumeAt = some text ∧ Moment.ofIso? text = some u
  last : ∃ t, r.steps.getLast? = some t ∧ AtWait chain t

section
variable {P : Reply → Prop} {wid : String} {d : Workflow.Definition} {chain : Chain} {c : Config}
  {k : Collaborators σ} {i : Invocation σ} {r : Row} {e : Enrollment} {w : Workflow.Record}
  {p : Resumption} {report : Report} {h : Bool} {calls : List Exchange}

/-! ### The steps of a run -/

/-- Steps that end with a pause until a moment are those of an enrollment that comes back to it. -/
theorem Until.behind {t : StepRow} {due : Moment} (hu : Until t due) {steps : List Step}
    {last : Step} (hlast : steps.getLast? = some last) (hsame : t.entry = last.entry)
    {n : Chain.Node} (hid : t.nodeId = n.id) : Behind steps n due.kept := by
  have htext : last.get "resumeAt" = .str due.iso := by
    have houtput : t.output = last.output := congrArg Entry.output hsame
    have htext := hu.text
    rwa [houtput] at htext
  exact ⟨last, hlast, (congrArg Entry.status hsame).symm.trans hu.status,
    (congrArg Entry.isPaused hsame).symm.trans hu.paused,
    (congrArg Entry.nodeId hsame).symm.trans hid, due?_of_iso htext (ofIso?_iso hu.valid)⟩

/-- The due time of a report that ends with a pause of a wait is that of the pause. -/
theorem Until.dueTime {s : Step} {due u now : Moment} (hu : Until (StepRow.ofStep s) due)
    {resumeAt : Option Due} (hread : s.due? = .ok resumeAt)
    (hdue : Service.dueTime now resumeAt = .ok u) : InUtc due.kept u := by
  have hknown : due.kept.offset.isSome = true := by
    rw [kept_known]
    exact hu.known
  have htext : s.get "resumeAt" = .str due.iso := hu.text
  rw [due?_of_iso htext (ofIso?_iso hu.valid)] at hread
  rw [← Except.ok.inj hread, dueTime_known hknown] at hdue
  exact ⟨kept_isValid hu.valid, hknown, hdue⟩

/-- **A pause of a wait among the new steps of an enrollment says until when.** -/
theorem until_of_new (hs : chain.Sound) (hclock : Aware i.before.clock)
    (hready : Ready i.before i.id e w chain p)
    (hcomes : (i.plan c h e w chain p).ComesTo P (.ok report) calls) {s : Step}
    (hmem : s ∈ newSteps e report) (hpaused : s.isPaused = true)
    (hwait : AtWait chain (StepRow.ofStep s)) : ∃ due, Until (StepRow.ofStep s) due := by
  obtain ⟨n, hn, hid, amount, unit, hc⟩ := hwait
  obtain ⟨m, hm⟩ := List.getElem?_of_mem (newSteps_subset e report hmem)
  cases Invocation.tookUp hs ⟨hclock.valid, hclock.known⟩ hready hcomes hm hn hc hid with
  | begun _ hdue hstep _ htext =>
    obtain ⟨hvalid, hoffset⟩ := dueAfter_isValid hclock.valid hdue
    exact ⟨_, hstep.2.1, hpaused, htext, hvalid, by rw [hoffset]; exact hclock.known⟩
  | again hb hone hyes =>
    rw [newSteps_of_again hb hone hyes hid] at hmem
    cases hmem
  | elapsed _ _ _ hresumed => exact absurd (hresumed.1.2.2.symm.trans hpaused) (by decide)

/-- Where an enrollment still waits at its last step, the due time is that of this step. -/
theorem until_of_again (hs : chain.Sound) (hclock : Aware i.before.clock)
    (hentries : e.steps.map Step.entry = r.steps.map StepRow.entry)
    (hdated : ∀ t ∈ r.steps, t.entry.isPaused = true → AtWait chain t → ∃ due, Until t due)
    (hready : Ready i.before i.id e w chain p)
    (hcomes : (i.plan c h e w chain p).ComesTo P (.ok report) calls) {s last : Step}
    (hone : report.steps = [s]) (hpaused : s.isPaused = true) (hread : s.due? = .ok report.resumeAt)
    (hlast : e.steps.getLast? = some last) (hlastPaused : last.isPaused = true)
    (hsame : last.nodeId = s.nodeId) {u : Moment}
    (hu : dueTime i.before.clock report.resumeAt = .ok u) :
    ∃ t, r.steps.getLast? = some t ∧ t.entry.isPaused = true ∧
      (AtWait chain t → ∃ due, Until t due ∧ InUtc due.kept u) := by
  obtain ⟨t, ht, hte⟩ := last_of_entries hentries hlast
  have htPaused : t.entry.isPaused = true := (congrArg Entry.isPaused hte).trans hlastPaused
  refine ⟨t, ht, htPaused, fun hwait => ?_⟩
  obtain ⟨due, huntil⟩ := hdated t (List.mem_of_getLast? ht) htPaused hwait
  obtain ⟨n, hn, hid, amount, unit, hc⟩ := hwait
  have hb := huntil.behind hlast hte hid
  have hsid : s.nodeId = n.id := hsame.symm.trans ((congrArg Entry.nodeId hte).symm.trans hid)
  have hfirst : report.steps[0]? = some s := by
    rw [hone]
    rfl
  cases Invocation.tookUp hs ⟨hclock.valid, hclock.known⟩ hready hcomes hfirst hn hc hsid with
  | begun hno => exact absurd hb (hno _)
  | again hb' _ _ _ hstep _ htext =>
    obtain rfl := hb.unique hb'
    have hstep' : Until (StepRow.ofStep s) due.kept :=
      ⟨hstep.2.1, hpaused, htext, kept_isValid huntil.valid, by rw [kept_known]; exact huntil.known⟩
    have hutc := hstep'.dueTime hread hu
    rw [kept_kept] at hutc
    exact ⟨due, huntil, hutc⟩
  | elapsed _ _ _ hresumed => exact absurd (hresumed.1.2.2.symm.trans hpaused) (by decide)

/-- **Behind a run that paused, the due time is that of the last step**, be it one that the run
added or the one at which the enrollment still waits. -/
theorem until_of_last (hs : chain.Sound) (hclock : Aware i.before.clock)
    (hentries : e.steps.map Step.entry = r.steps.map StepRow.entry)
    (hdated : ∀ t ∈ r.steps, t.entry.isPaused = true → AtWait chain t → ∃ due, Until t due)
    (hready : Ready i.before i.id e w chain p)
    (hcomes : (i.plan c h e w chain p).ComesTo P (.ok report) calls)
    (hpaused : report.isPaused = true) {u : Moment}
    (hu : dueTime i.before.clock report.resumeAt = .ok u) :
    ∃ t, (r.steps ++ (newSteps e report).map StepRow.ofStep).getLast? = some t ∧
      t.entry.isPaused = true ∧ (AtWait chain t → ∃ due, Until t due ∧ InUtc due.kept u) := by
  rcases run_closes hcomes with ⟨-, hno, -⟩ | ⟨nodes, -, -, -, hcloses⟩
  · exact absurd (hno.symm.trans hpaused) Bool.false_ne_true
  generalize hall : report.steps = steps at hcloses
  cases hcloses with
  | arrived _ _ _ hno => exact absurd (hno.symm.trans hpaused) Bool.false_ne_true
  | failed _ _ _ hno => exact absurd (hno.symm.trans hpaused) Bool.false_ne_true
  | paused hbefore hsucc hsp hread hstatus hyes hmem hran =>
    rename_i before s n ch c' xs
    rcases newSteps_cases e report with hnew | ⟨hnew, -, s', last, hone, hlast, hlastPaused, hsame⟩
    · refine ⟨StepRow.ofStep s, ?_, hsp, fun hwait => ?_⟩
      · rw [hnew, hall, List.map_append, ← List.append_assoc]
        exact List.getLast?_concat
      · have hadded : s ∈ newSteps e report := by
          rw [hnew, hall]
          exact List.mem_append_right _ List.mem_cons_self
        obtain ⟨due, huntil⟩ := until_of_new hs hclock hready hcomes hadded hsp hwait
        exact ⟨due, huntil, huntil.dueTime hread hu⟩
    · have hss : [] ++ [s'] = before ++ [s] := hone.symm.trans hall
      obtain ⟨-, rfl⟩ := List.append_singleton_inj.1 hss
      rw [hnew, List.map_nil, List.append_nil]
      exact until_of_again hs hclock hentries hdated hready hcomes hone hsp hread hlast hlastPaused
        hsame hu

/-! ### The invariant -/

/-- News about a lead do not touch the invariant. -/
theorem Waiting.refreshed (hr : Waiting wid chain r) (he : e.lead.IsWhole) (news : Option Lead) :
    Waiting wid chain (refreshed news e r) := by
  have hlegible := legible_refreshed hr.legible he news
  cases news with
  | none => exact hr
  | some news => exact ⟨hlegible, hr.opened, hr.dated, hr.due⟩

/-- Recording a run keeps the invariant, if its pauses say until when and its due time is that of
the last step. -/
theorem Waiting.recorded (hr : Waiting wid chain r) {steps : List Step}
    {status : Enrollment.Status} {completedAt resumeAt : Option Moment}
    (hsteps : ∀ s ∈ steps, Readable s.createdAt)
    (hopen : resumeAt.isSome = true → status = .inProgress ∧ completedAt = none)
    (hdated : r.workflowId = wid → ∀ s ∈ steps, s.isPaused = true →
      AtWait chain (StepRow.ofStep s) → ∃ due, Until (StepRow.ofStep s) due)
    (hdue : r.workflowId = wid → ∀ u ∈ resumeAt, ∃ t,
      (r.steps ++ steps.map StepRow.ofStep).getLast? = some t ∧ t.entry.isPaused = true ∧
        (AtWait chain t → ∃ due, Until t due ∧ InUtc due.kept u)) :
    Waiting wid chain (Enrollment.recorded steps status completedAt resumeAt r) := by
  refine ⟨hr.legible.recorded hsteps _ _ _, ?_, ?_, ?_⟩
  · intro hsome
    have hsome' : (resumeAt.map Moment.iso).isSome = true := hsome
    rw [Option.isSome_map] at hsome'
    obtain ⟨hstatus, hnone⟩ := hopen hsome'
    exact ⟨hstatus, congrArg (Option.map Moment.iso) hnone⟩
  · intro hw t ht hp hwait
    rcases List.mem_append.1 ht with ht | ht
    · exact hr.dated hw t ht hp hwait
    · obtain ⟨s, hs, rfl⟩ := List.mem_map.1 ht
      exact hdated hw s hs hp hwait
  · intro hw text htext
    obtain ⟨u, hu, rfl⟩ := Option.map_eq_some_iff.1 htext
    obtain ⟨t, hlast, hp, huntil⟩ := hdue hw u hu
    refine ⟨t, hlast, hp, fun hwait => ?_⟩
    obtain ⟨due, hdue, hutc⟩ := huntil hwait
    exact ⟨due, u, hdue, hutc, rfl⟩

/-- A run leaves the row that it touches with the invariant. -/
theorem Touched.waiting (hchain : d.linearize = .ok chain)
    (hsame : Unedited wid d i.before.files) (hclock : Aware i.before.clock)
    (hnews : ∀ lead ∈ i.news, lead.IsWhole) (hf : Found i.before i.id i.news r e)
    (hr : Waiting wid chain r) {r' : Row} (ht : Touched P c k i r e r') :
    Waiting wid chain r' := by
  have hs := Workflow.linearize_sound hchain
  have hrefreshed := hr.refreshed (hf.legible hr.legible hnews).1 i.news
  have hwid := refreshed_workflowId i.news e r
  have hends : ∀ {status : Enrollment.Status} {completedAt : Option Moment}, Waiting wid chain
      (Enrollment.recorded [] status completedAt none (Service.refreshed i.news e r)) :=
    hrefreshed.recorded nofun nofun (fun _ => nofun) fun _ => nofun
  cases ht with
  | told => exact hrefreshed
  | flawed => exact hends
  | complete => exact hends
  | recorded hready hcomes hv =>
    rename_i w chain' p report status completedAt resumeAt
    have hline : (Service.refreshed i.news e r).workflowId = wid → chain' = chain := fun hw =>
      Except.ok.inj (hready.line.symm.trans
        (hf.line hchain hsame (hwid.symm.trans hw) hready.workflow))
    refine hrefreshed.recorded (hclock.newSteps hcomes) ?_ ?_ ?_
    · intro hsome
      cases hv with
      | failed => cases hsome
      | paused => exact ⟨rfl, rfl⟩
      | succeeded => cases hsome
    · intro hw s hmem hp hwait
      obtain rfl := hline hw
      exact until_of_new hs hclock hready hcomes hmem hp hwait
    · intro hw u hu
      obtain rfl := hline hw
      cases hv with
      | failed => cases hu
      | paused _ hpaused hdue =>
        cases hu
        rw [refreshed_steps]
        exact until_of_last hs hclock hf.entries (hr.dated (hwid.symm.trans hw)) hready hcomes
          hpaused hdue
      | succeeded => cases hu

/-- **Every command keeps the invariant**, if the workflow was not edited and the clock knows its
offset. -/
theorem Command.waiting (hchain : d.linearize = .ok chain) (cmd : Command)
    (hcmd : cmd.Proper Aware) {s : State σ} (hsame : Unedited wid d s.files)
    (hs : AllRows Aware (Waiting wid chain) s) :
    AllRows Aware (Waiting wid chain) (cmd.perform c k s) := by
  have hk := k.reply_any
  refine cmd.allRows hk ?_ ?_ ?_ hs
  · rintro s₁ workflowId source lead overrides w rfl hclock
    exact ⟨⟨⟨_, hcmd.1.normalized, rfl⟩, ⟨_, hcmd.2, rfl⟩, ⟨_, hclock.stamp, rfl⟩, nofun⟩, nofun,
      fun _ => nofun, fun _ => nofun⟩
  · intro i hfiles hclock hnews r e r' hf hr ht
    refine ht.waiting hchain (by rw [hfiles]; exact hsame) hclock ?_ hf hr
    intro lead hlead
    obtain ⟨id, ignore, rfl⟩ := hnews lead hlead
    exact hcmd lead rfl
  · rintro now rfl
    exact hcmd

/-! ### Runs that come too early -/

/-- What the row of an enrollment says that is paused at a wait. -/
structure Resting (chain : Chain) (r : Row) (u : Moment) (t : StepRow) (n : Chain.Node)
    (due : Moment) : Prop where
  status : r.status = .inProgress
  completedAt : r.completedAt = none
  resumeAt : r.resumeAt = some u.iso
  last : r.steps.getLast? = some t
  mem : n ∈ chain.nodes
  node : t.nodeId = n.id
  wait : ∃ amount unit, n.config = .wait amount unit
  pause : Until t due
  utc : InUtc due.kept u

theorem Waiting.resting (hr : Waiting wid chain r) (hw : r.workflowId = wid) {u : Moment}
    (hrests : Rests chain r u) : ∃ t n due, Resting chain r u t n due := by
  obtain ⟨text, htext, hread⟩ := hrests.due
  obtain ⟨t, hlast, hwait⟩ := hrests.last
  obtain ⟨hopen, hnone⟩ := hr.opened (by rw [htext]; rfl)
  obtain ⟨t', hlast', -, huntil⟩ := hr.due hw text htext
  obtain rfl := Option.some.inj (hlast.symm.trans hlast')
  obtain ⟨due, u', hdue, hutc, rfl⟩ := huntil hwait
  rw [ofIso?_iso (toUtc_isValid hutc.valid hutc.utc), kept_of_utc (toUtc_eq hutc.utc).1] at hread
  obtain rfl := Option.some.inj hread
  obtain ⟨n, hn, hid, hc⟩ := hwait
  exact ⟨t, n, due, hopen, hnone, htext, hlast, hn, hid, hc, hdue, hutc⟩

/-- An enrollment that is paused at a wait is ready to be run, from this wait on. -/
theorem Resting.ready {u due : Moment} {t : StepRow} {n : Chain.Node}
    (hrest : Resting chain r u t n due) (hlegible : r.Legible) (hchain : d.linearize = .ok chain)
    (hstored : Stored i.before.files r.workflowId d)
    (hfind : i.before.rows.find? i.id = some r) (hnews : i.news = none) :
    ∃ e w, Found i.before i.id i.news r e ∧ Behind e.steps n due.kept ∧
      Ready i.before i.id e w chain ⟨some n.id, some (.at due.kept)⟩ := by
  have hutc := hrest.utc
  have hu := Enrollment.readable_of_utc (toUtc_isValid hutc.valid hutc.utc) (toUtc_eq hutc.utc).1
  obtain ⟨e, he, hrow⟩ := hlegible.storable (by rw [hrest.completedAt]; nofun)
    (by rw [hrest.resumeAt]; exact fun text h => ⟨u, hu, (Option.some.inj h).symm⟩)
  have hread : r.read = .ok e := by
    rw [hrow]
    exact Enrollment.read_ofEnrollment he
  have hf : Found i.before i.id i.news r e := ⟨hfind, e, hread, by rw [hnews]; rfl⟩
  have hlast := hrest.last
  rw [(hlegible.read hread).2, List.getLast?_map] at hlast
  obtain ⟨last, hlast, hstep⟩ := Option.map_eq_some_iff.1 hlast
  have hb := hrest.pause.behind hlast (congrArg StepRow.entry hstep.symm) hrest.node
  obtain ⟨w, hload, hdef⟩ := hstored i.before.clock.universal
  refine ⟨e, w, hf, hb, ⟨r, e, hfind, hread, rfl, hf.ids.2, hf.ids.1⟩, ?_, ?_, hb.resumption chain,
    rfl⟩
  · rw [hf.ids.2]
    exact hload
  · rw [hdef]
    exact hchain

/-- A timer can be set again for an enrollment that is not yet due. -/
theorem rearm_of_later {s : State σ} (hclock : Aware s.clock) {u : Moment} (hu : u.IsValid)
    (hzero : u.offset = some 0) (hle : u.le? s.clock = some false)
    (hroom : c.maxDelayMs ≤ Delay.longCeiling ∨ u.reading + 1000 ≤ endOfTime) (id : String) :
    ∃ timers, rearm c id (some u) s = .ok timers := by
  obtain ⟨now, hnow⟩ := Option.isSome_iff_exists.1 hclock.universal
  have hassume : s.clock.assumeUtc = s.clock := assumeUtc_of_known hclock.known
  have huniversal : s.clock.universal = now := by
    unfold Moment.universal
    rw [hassume, hnow]
    rfl
  obtain ⟨hinstant, -⟩ := instant?_of_toUtc hclock.known hnow
  have hlater : now.reading < u.reading := by
    obtain ⟨o, ho, hreading⟩ := Option.map_eq_some_iff.1 hinstant
    unfold Moment.le? Moment.compare? at hle
    rw [hzero, ho] at hle
    have hgt : compare (u.reading - 0) (s.clock.reading - o) = .gt := by simpa using hle
    rw [compare_gt_iff_gt] at hgt
    omega
  have hinstant' : s.clock.assumeUtc.instant? = some now.reading := by
    rw [hassume]
    exact hinstant
  obtain ⟨ms, timers, hset⟩ := Timers.arm_of_later (toUtc_isValid hclock.valid hnow) hu hzero hlater
    hroom hinstant' s.timers id
  refine ⟨timers, ?_⟩
  unfold rearm
  dsimp only
  rw [huniversal, hset]
  rfl

/-- **A run that comes too early to a wait changes nothing of the row and asks nobody**, unless it
brings news. It sets the timer again, if the timer can be set for this moment. -/
theorem Invocation.early (hchain : d.linearize = .ok chain) (i : Invocation σ)
    (hnews : i.news = none) (hstored : Stored i.before.files wid d) (hclock : Aware i.before.clock)
    (hids : (i.before.rows.map (·.id)).Nodup) (hmem : r ∈ i.before.rows) (hid : i.id = r.id)
    (hw : r.workflowId = wid) (hr : Waiting wid chain r) {u : Moment} (hrests : Rests chain r u)
    (hle : u.le? i.before.clock = some false) :
    r ∈ (i.after c k).rows ∧ i.calls c k = [] ∧
      ((c.maxDelayMs ≤ Delay.longCeiling ∨ u.reading + 1000 ≤ endOfTime) →
        ∃ report, i.result c k = .ok report) := by
  have hk := k.reply_any
  obtain ⟨t, n, due, hrest⟩ := hr.resting hw hrests
  obtain ⟨amount, unit, hc⟩ := hrest.wait
  have hutc := hrest.utc
  obtain ⟨e, w, hf, hb, hready⟩ := hrest.ready hr.legible hchain (by rw [hw]; exact hstored)
    (by rw [hid]; exact find?_of_mem hids hmem) hnews
  have hcomes := Plan.comesTo_run hk
    (i.plan c k.handsOver e w chain ⟨some n.id, some (.at due.kept)⟩) i.before.world
  have hlater : due.kept.le? i.before.clock.assumeUtc = some false := by
    rw [assumeUtc_of_known hclock.known, ← le?_of_toUtc hutc.known hutc.utc]
    exact hle
  obtain ⟨hcalls, report, s, hreport, hone, hsid, hsucc, hpaused, hresume⟩ :=
    run_again (Workflow.linearize_sound hchain) hrest.mem hc hutc.valid rfl rfl rfl hlater hcomes
  have hv : Verdict i.before.clock report .inProgress none (some u) := by
    refine .paused hsucc hpaused ?_
    rw [hresume, kept_kept, dueTime_known hutc.known]
    exact hutc.utc
  refine ⟨?_, ?_, fun hroom => ?_⟩
  · -- what is recorded is what the row says
    rw [rows_ready hf hready hreport hv, newSteps_of_again hb hone hpaused hsid, hnews]
    refine List.mem_map.2 ⟨r, hmem, ?_⟩
    rw [if_pos hid.symm]
    show Enrollment.recorded [] .inProgress none (some u) r = r
    unfold Enrollment.recorded
    rw [← hrest.status, Option.map_none, ← hrest.completedAt, Option.map_some, ← hrest.resumeAt,
      List.map_nil, List.append_nil]
  · rw [calls_ready hf hready]
    exact hcalls
  · obtain ⟨timers, hset⟩ := rearm_of_later hclock (toUtc_isValid hutc.valid hutc.utc)
      (toUtc_eq hutc.utc).1 hle hroom i.id
    rw [result_ready hf hready hreport hv, hset]
    exact ⟨report, rfl⟩

end

end Service
end Cadence
