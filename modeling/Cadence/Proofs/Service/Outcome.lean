/-
# What a run of an enrollment comes to

Everything that advancing an enrollment can come to is listed once, as the relation `Ended` between
a run, its result and the state after it; `advance_ended` shows that the list is complete. No other
proof has to open `begin_` or `conclude`.

A run whose enrollment cannot be read changes nothing. Every other run stores the news about the
lead first (`told`). A workflow that is gone, or a fault on the way to a report, leaves it at that.
A workflow that can no longer be run, or a chain that is complete, ends the enrollment without a
step. In all other cases there is a report, and the verdict on it is recorded together with its new
steps; the timer of the enrollment is cancelled, or set again if it is due later (`rearm`).

Key definitions: `Found`, `Ready`, `Begins`, `Verdict`, `rearm`, `Invocation`, `Ended`.
Key theorems: `begin_begins`, `begins_of_run`, `run_conclude`, `advance_ended`.
-/
import Cadence.Proofs.Checks
import Cadence.Proofs.Delivery.Calls
import Cadence.Proofs.Enrollment.Stored
import Cadence.Proofs.Service.Run
import Cadence.Proofs.Time.Iso

namespace Cadence
namespace Service

open Enrollment Time

variable {σ : Type}

/-! ### Recording a run -/

theorem run_recordRun {id : String} {s : State σ} (h : (s.rows.find? id).isSome = true)
    (steps : List Step) (status : Status) (completedAt resumeAt : Option Moment) :
    (recordRun id steps status completedAt resumeAt : Op σ Unit).run s =
      (.ok (), { s with
        rows := s.rows.modify id (recorded steps status completedAt resumeAt)
        timers := if resumeAt.isNone then s.timers.remove id else s.timers }) := by
  have hput : (putRows (s.rows.recordRun id steps status.name completedAt resumeAt) :
      Op σ Unit).run s =
        (.ok (), { s with rows := s.rows.modify id (recorded steps status completedAt resumeAt) }) := by
    rw [run_putRows, recordRun_eq_ok h]
  unfold recordRun
  rw [run_bind_ok (run_get s), run_bind_ok hput]
  cases resumeAt with
  | none => rfl
  | some due => rfl

/-! ### The enrollment that is run -/

theorem get_eq_ok {rows : Rows} {id : String} {e : Enrollment}
    (h : rows.get id = .ok (some e)) : ∃ r, rows.find? id = some r ∧ r.read = .ok e := by
  unfold Rows.get at h
  cases hr : rows.find? id with
  | none =>
    rw [hr] at h
    cases h
  | some r =>
    rw [hr] at h
    obtain ⟨e', he, h⟩ := bind_eq_ok.1 h
    cases h
    exact ⟨r, rfl, he⟩

theorem get_of_read {rows : Rows} {id : String} {r : Row} {e : Enrollment}
    (hrow : rows.find? id = some r) (hread : r.read = .ok e) : rows.get id = .ok (some e) := by
  unfold Rows.get
  rw [hrow]
  exact bind_eq_ok.2 ⟨e, hread, rfl⟩

/-- An enrollment with the news about its lead. -/
def informed (news : Option Lead) (e : Enrollment) : Enrollment :=
  match news with
  | none => e
  | some news => { e with lead := mergedLead e.lead news }

/-- A row with the lead of its enrollment, if there were news about it. -/
def refreshed (news : Option Lead) (e : Enrollment) (r : Row) : Row :=
  match news with
  | none => r
  | some _ => { r with lead := keptFields e.lead.toJson }

section
variable (news : Option Lead) (e : Enrollment) (r : Row)

@[simp] theorem informed_steps : (informed news e).steps = e.steps := by
  cases news <;> rfl

@[simp] theorem informed_completedAt : (informed news e).completedAt = e.completedAt := by
  cases news <;> rfl

@[simp] theorem refreshed_id : (refreshed news e r).id = r.id := by
  cases news <;> rfl

@[simp] theorem refreshed_workflowId : (refreshed news e r).workflowId = r.workflowId := by
  cases news <;> rfl

@[simp] theorem refreshed_steps : (refreshed news e r).steps = r.steps := by
  cases news <;> rfl

end

/-- The state with the news about an enrollment stored. -/
def told (id : String) (news : Option Lead) (e : Enrollment) (s : State σ) : State σ :=
  { s with rows := s.rows.modify id (refreshed news e) }

theorem told_none (id : String) (e : Enrollment) (s : State σ) : told id none e s = s := by
  unfold told
  exact congrArg (fun rows => { s with rows }) (modify_self s.rows id)

/-- The enrollment that a run is about: what its row is read as, with the news about its lead. -/
structure Found (s : State σ) (id : String) (news : Option Lead) (r : Row) (e : Enrollment) :
    Prop where
  row : s.rows.find? id = some r
  read : ∃ e', r.read = .ok e' ∧ e = informed news e'

namespace Found

variable {s : State σ} {id : String} {news : Option Lead} {r : Row} {e : Enrollment}

theorem rowId (h : Found s id news r e) : r.id = id := by
  simpa using List.find?_some h.row

theorem mem (h : Found s id news r e) : r ∈ s.rows := List.mem_of_find?_eq_some h.row

theorem ids (h : Found s id news r e) : e.id = id ∧ e.workflowId = r.workflowId := by
  obtain ⟨e', hread, rfl⟩ := h.read
  have hid := (read_eq_ok.1 hread).id.trans h.rowId
  have hw := (read_eq_ok.1 hread).workflowId
  cases news <;> exact ⟨hid, hw⟩

/-- There is only one enrollment that a run is about. -/
theorem unique (h : Found s id news r e) {r' : Row} {e' : Enrollment}
    (h' : Found s id news r' e') : r' = r ∧ e' = e := by
  obtain ⟨a, hread, rfl⟩ := h.read
  obtain ⟨b, hread', rfl⟩ := h'.read
  have hr := h.row
  rw [h'.row] at hr
  cases hr
  rw [hread] at hread'
  cases hread'
  exact ⟨rfl, rfl⟩

/-- The row is still there when the news are stored. -/
theorem told_isSome (h : Found s id news r e) :
    ((told id news e s).rows.find? id).isSome = true := by
  have hgrown : Grown id [] s.rows (told id news e s).rows := by
    refine grown_modify ?_ s.rows
    intro r
    cases news <;> exact ⟨rfl, rfl, (List.append_nil _).symm⟩
  rw [hgrown.find?_isSome, h.row]
  rfl

/-- What is read from a legible row, with the news about its lead. -/
theorem legible (h : Found s id news r e) (hr : r.Legible) (hnews : ∀ lead ∈ news, lead.IsWhole) :
    e.lead.IsWhole ∧ r.steps = e.steps.map StepRow.ofStep := by
  obtain ⟨e', hread, rfl⟩ := h.read
  obtain ⟨hlead, hsteps⟩ := hr.read hread
  cases news with
  | none => exact ⟨hlead, hsteps⟩
  | some news => exact ⟨(hlead.update (hnews news rfl)).normalized, hsteps⟩

end Found

/-- Storing news about a lead keeps a row legible. -/
theorem legible_refreshed {r : Row} {e : Enrollment} (h : r.Legible) (he : e.lead.IsWhole)
    (news : Option Lead) : (refreshed news e r).Legible := by
  cases news with
  | none => exact h
  | some news => exact ⟨⟨e.lead, he, rfl⟩, h.overrides, h.createdAt, h.times⟩

/-- The enrollment is read and the news about its lead are stored, or there is a fault. -/
theorem run_getUpdated (id : String) (news : Option Lead) (s : State σ) :
    (∃ f, (getUpdated id news).run s = (.error f, s) ∧ ∀ r e, ¬ Found s id news r e) ∨
      ∃ r e, Found s id news r e ∧ (getUpdated id news).run s = (.ok e, told id news e s) := by
  have hfind := run_findEnrollment id s
  unfold getUpdated
  have hfound : ∀ r e, Found s id news r e → ∃ e', s.rows.get id = .ok (some e') :=
    fun r e ⟨hrow, e', hread, _⟩ => ⟨e', get_of_read hrow hread⟩
  rcases hget : s.rows.get id with f | _ | e <;> rw [hget] at hfind hfound
  · refine Or.inl ⟨f, run_bind_error hfind, fun r e hf => ?_⟩
    obtain ⟨e', heq⟩ := hfound r e hf
    cases heq
  · refine Or.inl ⟨.noEnrollment id, run_bind_error hfind, fun r e hf => ?_⟩
    obtain ⟨e', heq⟩ := hfound r e hf
    cases heq
  · obtain ⟨r, hrow, hread⟩ := get_eq_ok hget
    refine Or.inr ⟨r, informed news e, ⟨hrow, e, hread, rfl⟩, ?_⟩
    rw [run_bind_ok hfind]
    cases news with
    | none =>
      rw [told_none]
      rfl
    | some news => rfl

/-! ### Up to the plan -/

/-- An enrollment is ready to be run: it stands in the store, its workflow is a chain, and there are
nodes ahead. -/
structure Ready (s : State σ) (id : String) (e : Enrollment) (w : Workflow.Record) (chain : Chain)
    (p : Resumption) : Prop where
  stored : ∃ r e', s.rows.find? id = some r ∧ r.read = .ok e' ∧ e.steps = e'.steps ∧
    e.workflowId = r.workflowId ∧ e.id = id
  workflow : s.files.load s.clock.universal e.workflowId = .ok (some w)
  line : w.definition.linearize = .ok chain
  resumes : resumption chain e.steps = .ok p
  ahead : p.node.isSome = true

theorem Found.ready {s : State σ} {id : String} {news : Option Lead} {r : Row} {e : Enrollment}
    (h : Found s id news r e) {w : Workflow.Record} {chain : Chain} {p : Resumption}
    (hload : s.files.load s.clock.universal e.workflowId = .ok (some w))
    (hline : w.definition.linearize = .ok chain) (hp : resumption chain e.steps = .ok p)
    (hahead : p.node.isSome = true) : Ready s id e w chain p := by
  obtain ⟨e', hread, he⟩ := h.read
  have hsteps : e.steps = e'.steps := by rw [he, informed_steps]
  exact ⟨⟨r, e', h.row, hread, hsteps, h.ids.2, h.ids.1⟩, hload, hline, hp, hahead⟩

/-- The state after an enrollment was ended without a step. -/
def closed (id : String) (news : Option Lead) (e : Enrollment) (status : Status)
    (completedAt : Moment) (s : State σ) : State σ :=
  { s with
    rows := s.rows.modify id (recorded [] status (some completedAt) none ∘ refreshed news e)
    timers := s.timers.remove id }

theorem Found.run_close {s : State σ} {id : String} {news : Option Lead} {r : Row} {e : Enrollment}
    (h : Found s id news r e) (status : Status) (completedAt : Moment) :
    (recordRun e.id [] status (some completedAt) none : Op σ Unit).run (told id news e s) =
      (.ok (), closed id news e status completedAt s) := by
  rw [h.ids.1, run_recordRun h.told_isSome]
  unfold told closed
  rw [modify_modify (refreshed_id news e)]
  rfl

/-- Everything that advancing an enrollment can come to before collaborators are asked. -/
inductive Begins (c : Config) (h : Bool) (id : String) (ignore : Option Bool) (news : Option Lead)
    (s : State σ) : Except Fault Begun → State σ → Prop
  | unread {f : Fault} : (∀ r e, ¬ Found s id news r e) → Begins c h id ignore news s (.error f) s
  | unable {r : Row} {e : Enrollment} {f : Fault} : Found s id news r e →
      Begins c h id ignore news s (.error f) (told id news e s)
  | flawed {r : Row} {e : Enrollment} {w : Workflow.Record} {flaw : Workflow.Flaw} :
      Found s id news r e → s.files.load s.clock.universal e.workflowId = .ok (some w) →
      w.definition.linearize = .error flaw → Begins c h id ignore news s
        (.ok (.finished (flawedReport c.reportId s.clock.universal flaw)))
        (closed id news e .failed s.clock s)
  | complete {r : Row} {e : Enrollment} {w : Workflow.Record} {chain : Chain} {p : Resumption} :
      Found s id news r e → s.files.load s.clock.universal e.workflowId = .ok (some w) →
      w.definition.linearize = .ok chain → resumption chain e.steps = .ok p → p.node = none →
      Begins c h id ignore news s (.ok (.finished (emptyReport c s.clock.universal)))
        (closed id news e .success (e.completedAt.getD s.clock) s)
  | ready {r : Row} {e : Enrollment} {w : Workflow.Record} {chain : Chain} {p : Resumption} :
      Found s id news r e → Ready s id e w chain p → Begins c h id ignore news s
        (.ok (.running e s.clock
          (Runnable.run h (.chain chain) (runOptions c e w p ignore s.clock))))
        (told id news e s)

/-- What leads up to the plan of an enrollment that is ready: the news about it are stored. -/
theorem begin_ready (c : Config) (h : Bool) {id : String} (ignore : Option Bool)
    {news : Option Lead} {s : State σ} {r : Row} {e : Enrollment} {w : Workflow.Record}
    {chain : Chain} {p : Resumption} (hfound : Found s id news r e)
    (hready : Ready s id e w chain p) : (begin_ c h id ignore news).run s =
      (.ok (.running e s.clock (Runnable.run h (.chain chain) (runOptions c e w p ignore s.clock))),
        told id news e s) := by
  unfold begin_
  rcases run_getUpdated id news s with ⟨f, -, hno⟩ | ⟨r', e', hfound', hget⟩
  · exact absurd hfound (hno r e)
  obtain ⟨rfl, rfl⟩ := hfound.unique hfound'
  have hload : (told id news e' s).files.load (told id news e' s).clock.universal e'.workflowId =
      .ok (some w) := hready.workflow
  have hahead : ¬ p.node.isNone = true := by
    simpa [Option.isSome_iff_ne_none] using hready.ahead
  rw [run_bind_ok hget, run_bind, Op.after, run_latestWorkflow, hload]
  dsimp only
  rw [run_bind_ok (run_get _), hready.line]
  dsimp only
  rw [hready.resumes, run_bind_ok (run_orFault_ok p _), if_neg hahead]
  rfl

/-- An enrollment whose chain is complete is ended. -/
theorem begin_complete (c : Config) (h : Bool) {id : String} (ignore : Option Bool)
    {news : Option Lead} {s : State σ} {r : Row} {e : Enrollment} {w : Workflow.Record}
    {chain : Chain} {p : Resumption} (hfound : Found s id news r e)
    (hload : s.files.load s.clock.universal e.workflowId = .ok (some w))
    (hline : w.definition.linearize = .ok chain) (hp : resumption chain e.steps = .ok p)
    (hnone : p.node = none) : (begin_ c h id ignore news).run s =
      (.ok (.finished (emptyReport c s.clock.universal)),
        closed id news e .success (e.completedAt.getD s.clock) s) := by
  unfold begin_
  rcases run_getUpdated id news s with ⟨f, -, hno⟩ | ⟨r', e', hfound', hget⟩
  · exact absurd hfound (hno r e)
  obtain ⟨rfl, rfl⟩ := hfound.unique hfound'
  have hload' : (told id news e' s).files.load (told id news e' s).clock.universal e'.workflowId =
      .ok (some w) := hload
  rw [run_bind_ok hget, run_bind, Op.after, run_latestWorkflow, hload']
  dsimp only
  rw [run_bind_ok (run_get _), hline]
  dsimp only
  rw [hp, run_bind_ok (run_orFault_ok p _), if_pos (by rw [hnone]; rfl)]
  exact run_bind_ok (hfound.run_close .success (e'.completedAt.getD s.clock))

/-- **What leads up to a plan**: there is none, or it is that of an enrollment that is ready. -/
theorem begin_begins (c : Config) (h : Bool) (id : String) (ignore : Option Bool)
    (news : Option Lead) (s : State σ) : ∃ res s',
      (begin_ c h id ignore news).run s = (res, s') ∧ Begins c h id ignore news s res s' := by
  unfold begin_
  rcases run_getUpdated id news s with ⟨f, hget, hno⟩ | ⟨r, e, hfound, hget⟩
  · exact ⟨.error f, s, run_bind_error hget, .unread hno⟩
  obtain ⟨s', hs'⟩ : ∃ s', s' = told id news e s := ⟨_, rfl⟩
  rw [← hs'] at hget
  have hfiles : s'.files.load s'.clock.universal e.workflowId =
      s.files.load s.clock.universal e.workflowId := by
    rw [hs']
    rfl
  have hclock : s'.clock = s.clock := by
    rw [hs']
    rfl
  -- ending the enrollment without a step
  have hclose : ∀ (status : Status) (completedAt : Moment),
      (recordRun e.id [] status (some completedAt) none : Op σ Unit).run s' =
        (.ok (), closed id news e status completedAt s) := by
    intro status completedAt
    rw [hs']
    exact hfound.run_close status completedAt
  rw [run_bind_ok hget, run_bind, Op.after, run_latestWorkflow, hfiles]
  rcases hload : s.files.load s.clock.universal e.workflowId with f | _ | w
  · exact ⟨.error f, s', rfl, hs' ▸ .unable hfound⟩
  · exact ⟨.error (.noWorkflow e.workflowId), s', rfl, hs' ▸ .unable hfound⟩
  dsimp only
  rw [run_bind_ok (run_get s'), hclock]
  cases hline : w.definition.linearize with
  | error flaw =>
    exact ⟨_, _, run_bind_ok (hclose .failed s.clock), .flawed hfound hload hline⟩
  | ok chain =>
    dsimp only
    cases hres : resumption chain e.steps with
    | error f =>
      exact ⟨.error f, s', run_bind_error (run_orFault_error f s'), hs' ▸ .unable hfound⟩
    | ok p =>
      rw [run_bind_ok (run_orFault_ok p s')]
      by_cases hnone : p.node.isNone = true
      · rw [if_pos hnone]
        exact ⟨_, _, run_bind_ok (hclose .success (e.completedAt.getD s.clock)),
          .complete hfound hload hline hres (Option.isNone_iff_eq_none.1 hnone)⟩
      · rw [if_neg hnone]
        have hready : Ready s id e w chain p :=
          hfound.ready hload hline hres (by simpa [Option.isSome_iff_ne_none] using hnone)
        exact ⟨_, s', rfl, hs' ▸ .ready hfound hready⟩

/-- What led up to a run that has begun, or to its end. -/
theorem begins_of_run {c : Config} {h : Bool} {id : String} {ignore : Option Bool}
    {news : Option Lead} {s s' : State σ} {res : Except Fault Begun}
    (hbegin : (begin_ c h id ignore news).run s = (res, s')) :
    Begins c h id ignore news s res s' := by
  obtain ⟨res₀, s₀, hrun, hbegins⟩ := begin_begins c h id ignore news s
  rw [hbegin] at hrun
  cases hrun
  exact hbegins

/-! ### From the report on -/

/-- The steps of a report that are recorded. -/
def newSteps (e : Enrollment) (r : Report) : List Step := if stillWaits e r then [] else r.steps

section
variable {e : Enrollment} {r : Report}

/-- An enrollment still waits where its run did nothing but pause at the node of its last step, a
pause. -/
theorem stillWaits_iff : stillWaits e r = true ↔ r.isPaused = true ∧
    ∃ s last, r.steps = [s] ∧ e.steps.getLast? = some last ∧ last.isPaused = true ∧
      last.nodeId = s.nodeId := by
  unfold stillWaits
  constructor
  · intro h
    split at h
    · rename_i s last hpaused hsteps hlast
      rw [Bool.and_eq_true, decide_eq_true_eq] at h
      exact ⟨hpaused, s, last, hsteps, hlast, h.1, h.2⟩
    · cases h
  · rintro ⟨hpaused, s, last, hsteps, hlast, hlastPaused, hnode⟩
    rw [hpaused, hsteps, hlast]
    simp only [hlastPaused, hnode, decide_true, Bool.and_true]

/-- All steps of a report are recorded unless the enrollment still waits where it waited. -/
theorem newSteps_cases (e : Enrollment) (r : Report) : newSteps e r = r.steps ∨
    newSteps e r = [] ∧ r.isPaused = true ∧ ∃ s last, r.steps = [s] ∧
      e.steps.getLast? = some last ∧ last.isPaused = true ∧ last.nodeId = s.nodeId := by
  unfold newSteps
  split
  · rename_i hstill
    exact Or.inr ⟨rfl, stillWaits_iff.1 hstill⟩
  · exact Or.inl rfl

theorem newSteps_subset (e : Enrollment) (r : Report) : newSteps e r ⊆ r.steps := by
  rcases newSteps_cases e r with hall | ⟨hnone, -⟩
  · rw [hall]
    exact List.Subset.refl _
  · rw [hnone]
    exact List.nil_subset _

/-- The steps of a report that does not pause are all recorded. -/
theorem newSteps_of_not_paused (e : Enrollment) (h : r.isPaused = false) :
    newSteps e r = r.steps := by
  rcases newSteps_cases e r with hall | ⟨-, hpaused, -⟩
  · exact hall
  · exact absurd (h.symm.trans hpaused) Bool.false_ne_true

end

/-- The due time of a pause is its moment in universal time. -/
theorem dueTime_eq_ok {now m u : Moment} :
    dueTime now (some (.at m)) = .ok u ↔ m.assumeUtc.toUtc = some u := by
  unfold dueTime
  dsimp only
  cases m.assumeUtc.toUtc with
  | none => exact ⟨fun h => (nomatch h), fun h => (nomatch h)⟩
  | some u' =>
    exact ⟨fun h => congrArg some (Except.ok.inj h),
      fun h => congrArg Except.ok (Option.some.inj h)⟩

theorem dueTime_known {now m u : Moment} (h : m.offset.isSome = true) :
    dueTime now (some (.at m)) = .ok u ↔ m.toUtc = some u := by
  rw [dueTime_eq_ok, assumeUtc_of_known h]

/-- What becomes of an enrollment whose run began at a time and came to a report. -/
inductive Verdict (now : Moment) (r : Report) : Status → Option Moment → Option Moment → Prop
  | failed : r.status = .failed → Verdict now r .failed (some now) none
  | paused {due : Moment} : r.status = .success → r.isPaused = true →
      dueTime now r.resumeAt = .ok due → Verdict now r .inProgress none (some due)
  | succeeded : r.status = .success → r.isPaused = false → Verdict now r .success (some now) none

/-- There is a verdict on every report, unless its due time cannot be told. -/
theorem verdict_cases (now : Moment) (r : Report) :
    (∃ status completedAt resumeAt, Verdict now r status completedAt resumeAt) ∨
      r.status ≠ .failed ∧ r.isPaused = true ∧ ∃ f, dueTime now r.resumeAt = .error f := by
  cases hs : r.status with
  | failed => exact Or.inl ⟨_, _, _, .failed hs⟩
  | success =>
    cases hp : r.isPaused with
    | false => exact Or.inl ⟨_, _, _, .succeeded hs hp⟩
    | true =>
      cases hdue : dueTime now r.resumeAt with
      | error f => exact Or.inr ⟨by decide, rfl, f, rfl⟩
      | ok due => exact Or.inl ⟨_, _, _, .paused hs hp hdue⟩

/-- The timers after a run that left an enrollment due at a time, or no longer due. -/
def rearm (c : Config) (id : String) (due : Option Moment) (s : State σ) : Except Fault Timers :=
  match due with
  | none => .ok (s.timers.remove id)
  | some due => (s.timers.arm s.clock.universal c.maxDelayMs id (.until_ due s.clock)).map (·.2)

/-- **The verdict on a report is recorded with its new steps**, and the timer is cancelled or set.
A timer that cannot be set is a fault behind that. -/
theorem run_conclude (c : Config) {e : Enrollment} {now : Moment} {r : Report} {s : State σ}
    (hrow : (s.rows.find? e.id).isSome = true) {status : Status}
    {completedAt resumeAt : Option Moment} (hv : Verdict now r status completedAt resumeAt) :
    (conclude c e now r).run s = ((rearm c e.id resumeAt s).map fun _ => r, { s with
      rows := s.rows.modify e.id (recorded (newSteps e r) status completedAt resumeAt)
      timers := (rearm c e.id resumeAt s).toOption.getD s.timers }) := by
  have hrec := run_recordRun hrow (newSteps e r) status completedAt resumeAt
  cases hv with
  | failed hs =>
    unfold conclude
    rw [if_pos hs]
    exact run_bind_ok hrec
  | paused hs hp hdue =>
    rename_i due
    have hne : r.status ≠ .failed := by
      rw [hs]
      decide
    generalize s.rows.modify e.id (recorded (newSteps e r) .inProgress none (some due)) = rows
      at hrec ⊢
    have harm := run_armTimer c e.id (.until_ due s.clock) ({ s with rows } : State σ)
    unfold conclude rearm
    rw [if_neg hne, if_pos hp, hdue, run_bind_ok (run_orFault_ok due s)]
    refine (run_bind_ok hrec).trans ((run_bind_ok (run_get _)).trans ?_)
    dsimp only at harm ⊢
    rcases hset : s.timers.arm s.clock.universal c.maxDelayMs e.id (.until_ due s.clock) with
      f | ⟨ms, timers⟩ <;> rw [hset] at harm
    · exact run_bind_error harm
    · exact run_bind_ok harm
  | succeeded hs hp =>
    have hne : r.status ≠ .failed := by
      rw [hs]
      decide
    unfold conclude
    rw [if_neg hne, if_neg (by rw [hp]; exact Bool.false_ne_true)]
    exact run_bind_ok hrec

/-- Where the due time of a report cannot be told, nothing is recorded. -/
theorem run_conclude_lost (c : Config) (e : Enrollment) {now : Moment} {r : Report} {f : Fault}
    (hs : r.status ≠ .failed) (hp : r.isPaused = true) (hdue : dueTime now r.resumeAt = .error f)
    (s : State σ) : (conclude c e now r).run s = (.error f, s) := by
  unfold conclude
  rw [if_neg hs, if_pos hp, hdue]
  exact run_bind_error (run_orFault_error f s)

/-! ### One run of an enrollment -/

/-- Advancing an enrollment in some state, with or without news about its lead. -/
structure Invocation (σ : Type) where
  id : String
  ignore : Option Bool
  news : Option Lead
  before : State σ

namespace Invocation

/-- The state after the run. -/
def after (c : Config) (k : Collaborators σ) (i : Invocation σ) : State σ :=
  (advance c k i.id i.ignore i.news).after i.before

/-- What the run gives. -/
def result (c : Config) (k : Collaborators σ) (i : Invocation σ) : Except Fault Report :=
  ((advance c k i.id i.ignore i.news).run i.before).1

/-- The calls of the run. -/
def calls (c : Config) (k : Collaborators σ) (i : Invocation σ) : List Exchange :=
  match (begin_ c k.handsOver i.id i.ignore i.news).run i.before with
  | (.ok (.running _ _ plan), s) => plan.calls k s.world
  | _ => []

/-- The plan of the run, where the enrollment is ready. -/
def plan (c : Config) (h : Bool) (i : Invocation σ) (e : Enrollment) (w : Workflow.Record)
    (chain : Chain) (p : Resumption) : Plan (Except Fault Report) :=
  Runnable.run h (.chain chain) (runOptions c e w p i.ignore i.before.clock)

end Invocation

/-- Everything that a run can come to: its result and the state after it. -/
inductive Ended (P : Reply → Prop) (c : Config) (k : Collaborators σ) (i : Invocation σ) :
    Except Fault Report → State σ → Prop
  | unread {f : Fault} : (∀ r e, ¬ Found i.before i.id i.news r e) → i.calls c k = [] →
      Ended P c k i (.error f) i.before
  | unable {r : Row} {e : Enrollment} {f : Fault} : Found i.before i.id i.news r e →
      i.calls c k = [] → Ended P c k i (.error f) (told i.id i.news e i.before)
  | flawed {r : Row} {e : Enrollment} {w : Workflow.Record} {flaw : Workflow.Flaw} :
      Found i.before i.id i.news r e → i.calls c k = [] →
      i.before.files.load i.before.clock.universal e.workflowId = .ok (some w) →
      w.definition.linearize = .error flaw →
      Ended P c k i (.ok (flawedReport c.reportId i.before.clock.universal flaw))
        (closed i.id i.news e .failed i.before.clock i.before)
  | complete {r : Row} {e : Enrollment} {w : Workflow.Record} {chain : Chain} {p : Resumption} :
      Found i.before i.id i.news r e → i.calls c k = [] →
      i.before.files.load i.before.clock.universal e.workflowId = .ok (some w) →
      w.definition.linearize = .ok chain → resumption chain e.steps = .ok p → p.node = none →
      Ended P c k i (.ok (emptyReport c i.before.clock.universal))
        (closed i.id i.news e .success (e.completedAt.getD i.before.clock) i.before)
  | faulted {r : Row} {e : Enrollment} {w : Workflow.Record} {chain : Chain} {p : Resumption}
      {f : Fault} {world : σ} : Found i.before i.id i.news r e → Ready i.before i.id e w chain p →
      (i.plan c k.handsOver e w chain p).ComesTo P (.error f) (i.calls c k) →
      Ended P c k i (.error f) { told i.id i.news e i.before with world }
  | lost {r : Row} {e : Enrollment} {w : Workflow.Record} {chain : Chain} {p : Resumption}
      {report : Report} {f : Fault} {world : σ} : Found i.before i.id i.news r e →
      Ready i.before i.id e w chain p →
      (i.plan c k.handsOver e w chain p).ComesTo P (.ok report) (i.calls c k) →
      report.status ≠ .failed → report.isPaused = true →
      dueTime i.before.clock report.resumeAt = .error f →
      Ended P c k i (.error f) { told i.id i.news e i.before with world }
  | recorded {r : Row} {e : Enrollment} {w : Workflow.Record} {chain : Chain} {p : Resumption}
      {report : Report} {status : Status} {completedAt resumeAt : Option Moment} {world : σ} :
      Found i.before i.id i.news r e → Ready i.before i.id e w chain p →
      (i.plan c k.handsOver e w chain p).ComesTo P (.ok report) (i.calls c k) →
      Verdict i.before.clock report status completedAt resumeAt →
      Ended P c k i ((rearm c i.id resumeAt i.before).map fun _ => report) { i.before with
        rows := i.before.rows.modify i.id
          (Enrollment.recorded (newSteps e report) status completedAt resumeAt ∘
            refreshed i.news e)
        timers := (rearm c i.id resumeAt i.before).toOption.getD i.before.timers
        world }

/-- The calls of the run of an enrollment that is ready are those of its plan. -/
theorem calls_ready {c : Config} {k : Collaborators σ} {i : Invocation σ} {r : Row}
    {e : Enrollment} {w : Workflow.Record} {chain : Chain} {p : Resumption}
    (hfound : Found i.before i.id i.news r e) (hready : Ready i.before i.id e w chain p) :
    i.calls c k = (i.plan c k.handsOver e w chain p).calls k i.before.world := by
  unfold Invocation.calls
  rw [begin_ready c k.handsOver i.ignore hfound hready]
  rfl

/-- Where there is no plan, nobody is asked. -/
theorem calls_of_no_plan {c : Config} {k : Collaborators σ} {i : Invocation σ}
    {res : Except Fault Begun} {s : State σ}
    (hbegin : (begin_ c k.handsOver i.id i.ignore i.news).run i.before = (res, s))
    (hno : ∀ e now plan, res ≠ .ok (.running e now plan)) : i.calls c k = [] := by
  unfold Invocation.calls
  rw [hbegin]
  split
  · rename_i e now plan s' heq
    exact absurd (Prod.mk.inj heq).1 (hno e now plan)
  · rfl

/-- A run without a plan is over with what was begun. -/
theorem run_advance_over (c : Config) (k : Collaborators σ) {id : String} {ignore : Option Bool}
    {news : Option Lead} {s s' : State σ} (made : Except Fault Report)
    (hbegin : (begin_ c k.handsOver id ignore news).run s = (made.map .finished, s')) :
    (advance c k id ignore news).run s = (made, s') := by
  unfold advance
  cases made with
  | error f => exact run_bind_error hbegin
  | ok report => exact run_bind_ok hbegin

/-- A run with a plan carries it out and concludes with what it came to. -/
theorem run_advance (c : Config) (k : Collaborators σ) {id : String} {ignore : Option Bool}
    {news : Option Lead} {s s' : State σ} {e : Enrollment} {now : Moment}
    {plan : Plan (Except Fault Report)}
    (hbegin : (begin_ c k.handsOver id ignore news).run s = (.ok (.running e now plan), s')) :
    (advance c k id ignore news).run s =
      (do conclude c e now (← orFault (plan.run k s'.world).1) : Op σ Report).run
        { s' with world := (plan.run k s'.world).2 } := by
  have hcarry : (carryOut k plan).run s' =
      (.ok (plan.run k s'.world).1, { s' with world := (plan.run k s'.world).2 }) := by
    unfold carryOut
    rw [run_bind_ok (run_get s')]
    rfl
  unfold advance
  exact (run_bind_ok hbegin).trans (run_bind_ok hcarry)

section
variable {c : Config} {k : Collaborators σ} {i : Invocation σ} {r : Row} {e : Enrollment}
  {w : Workflow.Record} {chain : Chain} {p : Resumption} {report : Report} {status : Status}
  {completedAt resumeAt : Option Moment}

/-- The run of an enrollment that is ready carries out its plan and concludes with what that came
to. -/
theorem run_advance_ready (hfound : Found i.before i.id i.news r e)
    (hready : Ready i.before i.id e w chain p) :
    (advance c k i.id i.ignore i.news).run i.before =
      (do conclude c e i.before.clock
            (← orFault ((i.plan c k.handsOver e w chain p).run k i.before.world).1) :
        Op σ Report).run { told i.id i.news e i.before with
          world := ((i.plan c k.handsOver e w chain p).run k i.before.world).2 } :=
  run_advance c k (begin_ready c k.handsOver i.ignore hfound hready)

/-- The run of an enrollment that is ready, if its plan came to a report on which there is a
verdict. -/
theorem run_ready (hfound : Found i.before i.id i.news r e)
    (hready : Ready i.before i.id e w chain p)
    (hreport : ((i.plan c k.handsOver e w chain p).run k i.before.world).1 = .ok report)
    (hv : Verdict i.before.clock report status completedAt resumeAt) :
    (advance c k i.id i.ignore i.news).run i.before =
      ((rearm c i.id resumeAt i.before).map fun _ => report, { i.before with
        rows := i.before.rows.modify i.id
          (recorded (newSteps e report) status completedAt resumeAt ∘ refreshed i.news e)
        timers := (rearm c i.id resumeAt i.before).toOption.getD i.before.timers
        world := ((i.plan c k.handsOver e w chain p).run k i.before.world).2 }) := by
  rw [run_advance_ready hfound hready, hreport, run_bind_ok (run_orFault_ok report _),
    run_conclude c (by rw [hfound.ids.1]; exact hfound.told_isSome) hv, hfound.ids.1,
    ← modify_modify (refreshed_id i.news e)]
  rfl

theorem rows_ready (hfound : Found i.before i.id i.news r e)
    (hready : Ready i.before i.id e w chain p)
    (hreport : ((i.plan c k.handsOver e w chain p).run k i.before.world).1 = .ok report)
    (hv : Verdict i.before.clock report status completedAt resumeAt) :
    (i.after c k).rows = i.before.rows.modify i.id
      (recorded (newSteps e report) status completedAt resumeAt ∘ refreshed i.news e) := by
  unfold Invocation.after Op.after
  rw [run_ready hfound hready hreport hv]

theorem result_ready (hfound : Found i.before i.id i.news r e)
    (hready : Ready i.before i.id e w chain p)
    (hreport : ((i.plan c k.handsOver e w chain p).run k i.before.world).1 = .ok report)
    (hv : Verdict i.before.clock report status completedAt resumeAt) :
    i.result c k = (rearm c i.id resumeAt i.before).map fun _ => report := by
  unfold Invocation.result
  rw [run_ready hfound hready hreport hv]

/-- The report that a run gives is the one that its plan came to. -/
theorem made_of_result (hfound : Found i.before i.id i.news r e)
    (hready : Ready i.before i.id e w chain p) (hresult : i.result c k = .ok report) :
    ((i.plan c k.handsOver e w chain p).run k i.before.world).1 = .ok report := by
  have hrun := run_advance_ready (c := c) (k := k) hfound hready
  have hno : ∀ {f : Fault} {s : State σ},
      (advance c k i.id i.ignore i.news).run i.before ≠ (.error f, s) := by
    intro f s hfault
    unfold Invocation.result at hresult
    rw [hfault] at hresult
    cases hresult
  cases hmade : ((i.plan c k.handsOver e w chain p).run k i.before.world).1 with
  | error f =>
    rw [hmade, run_bind_error (run_orFault_error f _)] at hrun
    exact absurd hrun hno
  | ok made =>
    rcases verdict_cases i.before.clock made with
      ⟨status, completedAt, resumeAt, hv⟩ | ⟨hstatus, hpaused, f, hdue⟩
    · rw [result_ready hfound hready hmade hv] at hresult
      obtain ⟨-, -, rfl⟩ := map_eq_ok.1 hresult
      rfl
    · rw [hmade, run_bind_ok (run_orFault_ok made _),
        run_conclude_lost c e hstatus hpaused hdue] at hrun
      exact absurd hrun hno

end

section
variable {P : Reply → Prop} {c : Config} {k : Collaborators σ} {i : Invocation σ}

theorem Ended.of_run {out : Except Fault Report × State σ}
    (hrun : (advance c k i.id i.ignore i.news).run i.before = out)
    (h : Ended P c k i out.1 out.2) : Ended P c k i (i.result c k) (i.after c k) := by
  unfold Invocation.result Invocation.after Op.after
  rw [hrun]
  exact h

/-- What the run of an enrollment that is ready comes to. -/
theorem ready_ended (hk : k.Reply P) {r : Row} {e : Enrollment} {w : Workflow.Record}
    {chain : Chain} {p : Resumption} (hfound : Found i.before i.id i.news r e)
    (hready : Ready i.before i.id e w chain p) :
    Ended P c k i (i.result c k) (i.after c k) := by
  have hcomes := Plan.comesTo_run hk (i.plan c k.handsOver e w chain p) i.before.world
  rw [← calls_ready hfound hready] at hcomes
  obtain ⟨made, world, hmade⟩ : ∃ made world,
      (i.plan c k.handsOver e w chain p).run k i.before.world = (made, world) := ⟨_, _, rfl⟩
  have hrun := run_advance_ready (c := c) (k := k) hfound hready
  rw [hmade] at hcomes hrun
  cases made with
  | error f =>
    exact .of_run (hrun.trans (run_bind_error (run_orFault_error f _)))
      (.faulted hfound hready hcomes)
  | ok report =>
    rcases verdict_cases i.before.clock report with
      ⟨status, completedAt, resumeAt, hv⟩ | ⟨hstatus, hpaused, f, hdue⟩
    · exact .of_run (run_ready hfound hready (by rw [hmade]) hv)
        (.recorded hfound hready hcomes hv)
    · rw [run_bind_ok (run_orFault_ok report _),
        run_conclude_lost c e hstatus hpaused hdue] at hrun
      exact .of_run hrun (.lost hfound hready hcomes hstatus hpaused hdue)

end

/-- **Everything that a run of an enrollment can come to**, exactly. -/
theorem advance_ended {P : Reply → Prop} (c : Config) {k : Collaborators σ} (hk : k.Reply P)
    (i : Invocation σ) : Ended P c k i (i.result c k) (i.after c k) := by
  obtain ⟨res, s, hbegin, hbegins⟩ :=
    begin_begins c k.handsOver i.id i.ignore i.news i.before
  have hcalls := calls_of_no_plan hbegin
  cases hbegins with
  | unread hno =>
    exact .of_run (run_advance_over c k (.error _) hbegin)
      (.unread hno (hcalls (by rintro e now plan ⟨⟩)))
  | unable hfound =>
    exact .of_run (run_advance_over c k (.error _) hbegin)
      (.unable hfound (hcalls (by rintro e now plan ⟨⟩)))
  | flawed hfound hload hline =>
    exact .of_run (run_advance_over c k (.ok _) hbegin)
      (.flawed hfound (hcalls (by rintro e now plan ⟨⟩)) hload hline)
  | complete hfound hload hline hp hnone =>
    exact .of_run (run_advance_over c k (.ok _) hbegin)
      (.complete hfound (hcalls (by rintro e now plan ⟨⟩)) hload hline hp hnone)
  | ready hfound hready => exact ready_ended hk hfound hready

end Service
end Cadence
