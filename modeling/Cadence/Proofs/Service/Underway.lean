/-
# An enrollment on its way

What a service does with one enrollment whose row can be read is said here exactly, where all that
is asked for succeeds and the send window is no matter. Enrolling a lead makes the first leg of its
journey, and running the enrollment when it is due makes the next one. Either it comes to the end
of the journey or it is `Underway` again (`enroll_came`, `Underway.advanced`).

Key definitions: `Holds`, `Suits`, `Enrolled`, `Underway`, `Came`.
Key theorems: `advance_ready`, `Enrolled.came`, `Underway.advanced`, `enroll_came`.
-/
import Cadence.Proofs.Enrollment.Stored
import Cadence.Proofs.Service.Delivered

namespace Cadence
namespace Service

open Time
open Enrollment (Row Rows StepRow Status Storable Readable recorded)

variable {σ : Type}

/-! ### What is asked of the store and the clock -/

/-- Whenever it is asked for, the workflow with an id is stored, under this id, with a definition.
-/
def Holds (files : Workflow.Files) (wid : String) (d : Workflow.Definition) : Prop :=
  ∀ now, ∃ w, files.load now wid = .ok (some w) ∧ w.id = wid ∧ w.definition = d

/-- A time of the clock that suits enrollments from a source: it serves the chain, universal time
can show it, and the send window is no matter, for trials anyway and for others if messages may be
sent. -/
structure Suits (c : Config) (d : Workflow.Definition) (source : String) (chain : Chain)
    (m : Moment) : Prop extends Serves chain m where
  universal : m.assumeUtc.toUtc.isSome = true
  window : source = Enrollment.trialSource ∨
    Workflow.SendWindow.allows c.defaultTimezone d.settings.sendWindow m.assumeUtc = .ok true

/-! ### One run, exactly -/

/-- **One run of an enrollment that is ready**: it makes the calls of its plan, and the verdict on
the report it comes to is recorded. -/
theorem advance_ready {s : State σ} {e : Enrollment} {w : Workflow.Record} {chain : Chain}
    {p : Resumption} (hrow : s.rows.find? e.id = some (Row.ofEnrollment e)) (he : Storable e)
    (hload : s.files.load s.clock.universal e.workflowId = .ok (some w))
    (hline : w.definition.linearize = .ok chain) (hres : resumption chain e.steps = .ok p)
    (hsome : p.node.isSome = true) (c : Config) (k : Collaborators σ) :
    let i : Invocation σ := ⟨e.id, none, none, s⟩
    let plan := Runnable.run k.handsOver (.chain chain) (runOptions c e w p none s.clock)
    i.calls c k = plan.calls k s.world ∧ ∀ r, (plan.run k s.world).1 = .ok r →
      ∀ status completedAt resumeAt, Verdict s.clock r status completedAt resumeAt →
        (i.after c k).rows.find? e.id =
          some (Row.ofEnrollment (e.withRun (newSteps e r) status completedAt resumeAt)) := by
  intro i plan
  have hread := Enrollment.read_ofEnrollment he
  have hfound : Found s e.id none (Row.ofEnrollment e) e := ⟨hrow, e, hread, rfl⟩
  have hready : Ready s e.id e w chain p :=
    ⟨⟨_, e, hrow, hread, rfl, rfl, rfl⟩, hload, hline, hres, hsome⟩
  refine ⟨calls_ready hfound hready, ?_⟩
  intro r hplan status completedAt resumeAt hv
  have hmodify : (s.rows.modify e.id (recorded (newSteps e r) status completedAt resumeAt)).find?
      e.id = (s.rows.find? e.id).map (recorded (newSteps e r) status completedAt resumeAt) := by
    refine Enrollment.find?_modify e.id ?_ s.rows
    exact fun _ => rfl
  have hrows : (i.after c k).rows = s.rows.modify e.id
      (recorded (newSteps e r) status completedAt resumeAt) :=
    rows_ready (i := i) hfound hready hplan hv
  rw [hrows, hmodify, hrow, Option.map_some, Enrollment.recorded_ofEnrollment]

/-! ### An enrollment and its journey -/

/-- The context `c₀` asks for what an enrollment of a lead, which is normalized, asks for. -/
structure Asks (c₀ : Context) (c : Config) (lead : Lead) (overrides : Overrides) : Prop where
  lead : c₀.lead = lead
  overrides : c₀.overrides = overrides
  timeout : c₀.timeout = c.timeout

/-- An enrollment from a source, of a lead with overrides, in a workflow that is stored as it is. -/
structure Enrolled (wid : String) (d : Workflow.Definition) (source : String) (lead : Lead)
    (overrides : Overrides) (e : Enrollment) (s : State σ) : Prop where
  holds : Holds s.files wid d
  row : s.rows.find? e.id = some (Row.ofEnrollment e)
  storable : Storable e
  workflow : e.workflowId = wid
  origin : e.source = source
  normal : lead.normalized = lead
  leads : e.lead = lead
  overridden : e.overrides = overrides

/-- The enrollment is paused at a wait of the chain until a moment, with nodes ahead of it. -/
structure Underway (wid : String) (d : Workflow.Definition) (source : String) (lead : Lead)
    (overrides : Overrides) (chain : Chain) (n : Chain.Node) (ahead : List Chain.Node) (m u : Moment)
    (e : Enrollment) (s : State σ) : Prop extends Enrolled wid d source lead overrides e s where
  nodes : ∃ before, chain.nodes = before ++ n :: ahead
  wait : ∃ amount unit, n.config = .wait amount unit
  last : ∃ steps p, e.steps = steps ++ [p] ∧ p.nodeId = n.id ∧ p.status = .success ∧
    p.isPaused = true ∧ p.due? = .ok (some (.at m))
  status : e.status = .inProgress
  due : e.resumeAt = some u
  utc : InUtc m u

/-- What a run of an enrollment makes of the journey that was ahead: with the deliveries that were
made it has come to the end, or it is underway again. -/
inductive Came (wid : String) (d : Workflow.Definition) (source : String) (lead : Lead)
    (overrides : Overrides) (chain : Chain) (h : Bool) (c₀ : Context) (id : String)
    (ds : List Delivery) (s : State σ) : Journey → Prop
  | ended {j : Journey} : j.waits = 0 → j.deliveries = ds →
      (s.rows.find? id).map (·.status) = some (if j.arrives then .success else .failed) →
      Came wid d source lead overrides chain h c₀ id ds s j
  | underway {n : Chain.Node} {ahead : List Chain.Node} {m u : Moment} {e : Enrollment} :
      Underway wid d source lead overrides chain n ahead m u e s → e.id = id →
      Came wid d source lead overrides chain h c₀ id ds s
        (let j := journey h c₀ (fun _ => c₀.preferred) c₀.preferred ahead
        ⟨ds ++ j.deliveries, j.waits + 1, j.arrives⟩)

section
variable {wid source : String} {d : Workflow.Definition} {lead : Lead} {overrides : Overrides}
  {chain : Chain} {e : Enrollment} {s : State σ} {c : Config} {k : Collaborators σ} {c₀ : Context}

/-- An enrollment with a run recorded in it is enrolled as it was. -/
theorem Enrolled.withRun {s' : State σ} (he : Enrolled wid d source lead overrides e s)
    (hfiles : s'.files = s.files) {steps : List Step} {status : Status}
    {completedAt resumeAt : Option Moment}
    (hrow : s'.rows.find? e.id =
      some (Row.ofEnrollment (e.withRun steps status completedAt resumeAt)))
    (hsteps : ∀ s ∈ steps, Readable s.createdAt) (hcompleted : ∀ m ∈ completedAt, Readable m)
    (hresume : ∀ m ∈ resumeAt, Readable m) :
    Enrolled wid d source lead overrides (e.withRun steps status completedAt resumeAt) s' := by
  obtain ⟨hlead, hoverrides, hold, hcreated, -, -⟩ := he.storable
  refine ⟨?_, hrow, ⟨hlead, hoverrides, ?_, hcreated, hcompleted, hresume⟩, he.workflow, he.origin,
    he.normal, he.leads, he.overridden⟩
  · rw [hfiles]
    exact he.holds
  · intro step hstep
    rcases List.mem_append.1 hstep with hstep | hstep
    · exact hold step hstep
    · exact hsteps step hstep

/-- The context in which an enrollment is run at a time, where it asks for what `c₀` asks for. -/
structure Pursues (ctx c₀ : Context) (clock : Moment) : Prop where
  alike : ctx.Alike c₀
  pauses : ctx.pauseAtWait = true
  isOpen : ctx.Open
  now : ctx.now = clock.assumeUtc
  stamp : ctx.stamp = clock.universal
  last : ctx.lastChannel = ctx.preferred

theorem Enrolled.pursues (he : Enrolled wid d source lead overrides e s)
    (ha : Asks c₀ c lead overrides) {now : Moment} (hnow : Suits c d source chain now)
    (w : Workflow.Record) (p : Resumption) :
    Pursues ((runOptions c e w p none now).context d.settings.sendWindow) c₀ now := by
  refine ⟨⟨?_, ?_, ha.timeout.symm⟩, rfl, ?_, rfl, rfl, rfl⟩
  · rw [ha.lead, ← he.normal, ← he.leads]
    rfl
  · rw [ha.overrides, ← he.overridden]
    rfl
  · rcases hnow.window with htrial | hallows
    · refine Or.inl ?_
      show decide (e.source = Enrollment.trialSource) = true
      rw [he.origin, htrial]
      exact decide_eq_true rfl
    · exact Or.inr hallows

theorem Pursues.preferred {ctx : Context} {now : Moment} (h : Pursues ctx c₀ now) :
    ctx.preferred = c₀.preferred := by
  unfold Context.preferred
  rw [h.alike.lead]

/-- The journey that is pursued. -/
theorem Pursues.journey {ctx : Context} {now : Moment} (h : Pursues ctx c₀ now) (handsOver : Bool)
    (nodes : List Chain.Node) :
    journey handsOver ctx (fun _ => ctx.preferred) ctx.lastChannel nodes =
      Cadence.journey handsOver c₀ (fun _ => c₀.preferred) c₀.preferred nodes := by
  rw [journey_alike h.alike, h.last, h.preferred]

/-- All steps of a leg are new, if it is the first or has passed a wait. -/
theorem newSteps_of_leg {h : Bool} {c' : Context} {nodes : List Chain.Node} {r report : Report}
    {ds : List Delivery} {j : Journey} (hleg : Leg h c' nodes r report ds j)
    (hnew : e.steps = [] ∨ r.steps ≠ []) : newSteps e report = report.steps := by
  rcases newSteps_cases e report with hall | ⟨-, hyes, s, last, hone, hlast, -⟩
  · exact hall
  exfalso
  cases hleg with
  | ended hp => exact absurd (hp.symm.trans hyes) Bool.false_ne_true
  | paused _ _ hpaused =>
    obtain ⟨-, -, -, steps, last', hsteps, -⟩ := hpaused
    rcases hnew with hnil | hne
    · rw [hnil] at hlast
      cases hlast
    · obtain ⟨first, rest, hr⟩ := List.exists_cons_of_ne_nil hne
      have hlength := congrArg List.length (hsteps.symm.trans hone)
      simp [hr] at hlength

/-- **A leg that a run makes is recorded**, and the enrollment has come to the end of its journey or
is underway. -/
theorem Enrolled.came (he : Enrolled wid d source lead overrides e s)
    (hclock : Suits c d source chain s.clock) (hline : d.linearize = .ok chain)
    {w : Workflow.Record}
    (hload : s.files.load s.clock.universal e.workflowId = .ok (some w)) (hw : w.definition = d)
    {p : Resumption} (hres : resumption chain e.steps = .ok p) (hsome : p.node.isSome = true)
    {report : Report} (hreport : ((Runnable.run k.handsOver (.chain chain)
      (runOptions c e w p none s.clock)).run k s.world).1 = .ok report)
    {ctx : Context} (hctx : Pursues ctx c₀ s.clock)
    (hstamp : ∀ s' ∈ report.steps, s'.createdAt = ctx.stamp)
    {nodes : List Chain.Node} (hnodes : ∃ before, chain.nodes = before ++ nodes)
    {opening : Report} (hnew : e.steps = [] ∨ opening.steps ≠ []) {j : Journey}
    (hleg : Leg k.handsOver ctx nodes opening report
      (((⟨e.id, none, none, s⟩ : Invocation σ).calls c k).map (·.delivery)) j) :
    let i : Invocation σ := ⟨e.id, none, none, s⟩
    Came wid d source lead overrides chain k.handsOver c₀ e.id ((i.calls c k).map (·.delivery))
      (i.after c k) j := by
  intro i
  have hline' : w.definition.linearize = .ok chain := by
    rw [hw]
    exact hline
  have hrec := (advance_ready he.row he.storable hload hline' hres hsome c k).2 report hreport
  rw [newSteps_of_leg hleg hnew] at hrec
  cases hleg with
  | ended hp hs hwaits hds =>
    refine .ended hwaits hds ?_
    cases harr : j.arrives with
    | true =>
      rw [harr, if_pos rfl] at hs
      rw [hrec _ _ _ (.succeeded hs hp)]
      rfl
    | false =>
      rw [harr, if_neg Bool.false_ne_true] at hs
      rw [hrec _ _ _ (.failed hs)]
      rfl
  | paused hsplit hconf hpaused hutc =>
    rename_i before ahead n amount unit m u
    obtain ⟨hs, hp, hresume, steps, last, hsteps, hlast⟩ := hpaused
    obtain ⟨passed, hnodes⟩ := hnodes
    have hdue : dueTime s.clock report.resumeAt = .ok u := by
      rw [hresume, dueTime_known hutc.known]
      exact hutc.utc
    have hrow := hrec _ _ _ (.paused hs hp hdue)
    have hreadable : Readable u :=
      Enrollment.readable_of_utc (toUtc_isValid hutc.valid hutc.utc) (toUtc_eq hutc.utc).1
    have hstamped : ∀ s' ∈ report.steps, Readable s'.createdAt := by
      intro s' hs'
      rw [hstamp s' hs', hctx.stamp]
      exact Enrollment.readable_universal hclock.valid hclock.universal
    have henrolled := he.withRun (Invocation.files i) hrow hstamped
      (fun m hm => by cases hm) (fun m hm => by cases hm; exact hreadable)
    rw [journey_alike hctx.alike, hctx.preferred]
    refine .underway ⟨henrolled, ⟨passed ++ before, ?_⟩, ⟨amount, unit, hconf⟩,
      ⟨e.steps ++ opening.steps ++ steps, last, ?_, hlast⟩, rfl, rfl, hutc⟩ rfl
    · rw [hnodes, hsplit, List.append_assoc]
    · show e.steps ++ report.steps = _
      rw [hsteps, List.append_assoc, List.append_assoc, List.append_assoc]

/-- The run of an enrollment takes it up at a node; if the nodes from some node on are a leg of a
journey, this is what it has come to. -/
theorem Enrolled.takes_up (he : Enrolled wid d source lead overrides e s)
    (hk : k.Reply Reply.Succeeds) (ha : Asks c₀ c lead overrides) (hline : d.linearize = .ok chain)
    (hclock : Suits c d source chain s.clock) {before rest : List Chain.Node} {n : Chain.Node}
    (hnodes : chain.nodes = before ++ n :: rest) {due : Option Due}
    (hres : resumption chain e.steps = .ok ⟨some n.id, due⟩) :
    let i : Invocation σ := ⟨e.id, none, none, s⟩
    ∃ ctx res, Pursues ctx c₀ s.clock ∧ ctx.replay = due.map (⟨n.id, ·⟩) ∧
      (runNodes k.handsOver ctx (Report.opening c.reportId ctx.stamp) (n :: rest)).ComesTo
        Reply.Succeeds res (i.calls c k) ∧
      ∀ {report opening nodes j}, res = .ok report →
        (∀ s' ∈ report.steps, s'.createdAt = ctx.stamp) →
        (∃ passed, chain.nodes = passed ++ nodes) → (e.steps = [] ∨ opening.steps ≠ []) →
        Leg k.handsOver ctx nodes opening report ((i.calls c k).map (·.delivery)) j →
        Came wid d source lead overrides chain k.handsOver c₀ e.id
          ((i.calls c k).map (·.delivery)) (i.after c k) j := by
  intro i
  obtain ⟨w, hload, hwid, hdef⟩ := he.holds s.clock.universal
  rw [← he.workflow] at hload
  have hline' : w.definition.linearize = .ok chain := by
    rw [hdef]
    exact hline
  obtain ⟨p, hp⟩ : ∃ p : Resumption, p = ⟨some n.id, due⟩ := ⟨_, rfl⟩
  rw [← hp] at hres
  have hsome : p.node.isSome = true := by
    rw [hp]
    rfl
  obtain ⟨ctx, hctx⟩ : ∃ ctx, ctx = (runOptions c e w p none s.clock).context
    d.settings.sendWindow := ⟨_, rfl⟩
  have hpursues : Pursues ctx c₀ s.clock := by
    rw [hctx]
    exact he.pursues ha hclock w p
  have hrun : Runnable.run k.handsOver (.chain chain) (runOptions c e w p none s.clock) =
      runNodes k.handsOver ctx (Report.opening c.reportId ctx.stamp) (n :: rest) := by
    rw [← runFrom_append (Workflow.linearize_sound hline).nodup hnodes, hctx, hp, ← hdef]
    rfl
  have hcomes := Plan.comesTo_run hk
    (Runnable.run k.handsOver (.chain chain) (runOptions c e w p none s.clock)) s.world
  have hcalls := (advance_ready he.row he.storable hload hline' hres hsome c k).1
  rw [← hcalls] at hcomes
  generalize hr : ((Runnable.run k.handsOver (.chain chain)
    (runOptions c e w p none s.clock)).run k s.world).1 = res at hcomes
  rw [hrun] at hcomes
  refine ⟨ctx, res, hpursues, ?_, hcomes, ?_⟩
  · rw [hctx, hp]
    rfl
  · intro report opening nodes j hreport hstamp hnodes hnew hleg
    rw [hreport] at hr
    exact he.came hclock hline hload hdef hres hsome hr hpursues hstamp hnodes hnew hleg

/-- **An enrollment that has just been made makes the first leg of its journey.** -/
theorem Enrolled.started (he : Enrolled wid d source lead overrides e s) (hnew : e.steps = [])
    (hk : k.Reply Reply.Succeeds) (ha : Asks c₀ c lead overrides) (hline : d.linearize = .ok chain)
    (hclock : Suits c d source chain s.clock) :
    let i : Invocation σ := ⟨e.id, none, none, s⟩
    Came wid d source lead overrides chain k.handsOver c₀ e.id ((i.calls c k).map (·.delivery))
      (i.after c k) (journey k.handsOver c₀ (fun _ => c₀.preferred) c₀.preferred chain.nodes) := by
  intro i
  obtain ⟨n, rest, hnodes⟩ :=
    List.exists_cons_of_ne_nil (Workflow.linearize_sound hline).nonempty
  have hres : resumption chain e.steps = .ok ⟨some n.id, none⟩ := by
    rw [hnew]
    unfold resumption Chain.firstId
    rw [hnodes]
    rfl
  have hsplit : chain.nodes = [] ++ n :: rest := hnodes
  obtain ⟨ctx, res, hctx, hreplay, hcomes, hend⟩ := he.takes_up hk ha hline hclock hsplit hres
  have hfresh : ∀ q ∈ ctx.replay, q.nodeId ∉ (n :: rest).map (·.id) := by
    intro q hq
    rw [hreplay] at hq
    cases hq
  have hreach : ∀ q ∈ n :: rest, ctx.Reaches q := by
    rw [← hnodes]
    exact reaches_of_serves hclock.toServes hctx.now
  obtain ⟨report, hreport, hstamps, hleg⟩ := walk_to_wait hctx.pauses hctx.isOpen hfresh hreach
    rfl rfl (fun _ hq => absurd hq List.not_mem_nil) hcomes
  rw [hctx.journey, ← hnodes] at hleg
  exact hend hreport hstamps ⟨[], rfl⟩ (Or.inl hnew) hleg

/-- **An enrollment that is run when it is due makes the next leg of its journey.** -/
theorem Underway.advanced {n : Chain.Node} {ahead : List Chain.Node} {m u : Moment} {s' : State σ}
    (hu : Underway wid d source lead overrides chain n ahead m u e s)
    (hfiles : s'.files = s.files) (hrows : s'.rows = s.rows) (hk : k.Reply Reply.Succeeds)
    (ha : Asks c₀ c lead overrides) (hline : d.linearize = .ok chain)
    (hclock : Suits c d source chain s'.clock) (hdue : u.le? s'.clock.assumeUtc = some true) :
    let i : Invocation σ := ⟨e.id, none, none, s'⟩
    Came wid d source lead overrides chain k.handsOver c₀ e.id ((i.calls c k).map (·.delivery))
      (i.after c k) (journey k.handsOver c₀ (fun _ => c₀.preferred) c₀.preferred ahead) := by
  intro i
  have hsound := Workflow.linearize_sound hline
  have he : Enrolled wid d source lead overrides e s' := by
    refine ⟨?_, ?_, hu.storable, hu.workflow, hu.origin, hu.normal, hu.leads, hu.overridden⟩
    · rw [hfiles]
      exact hu.holds
    · rw [hrows]
      exact hu.row
  obtain ⟨before, hnodes⟩ := hu.nodes
  obtain ⟨amount, unit, hconf⟩ := hu.wait
  obtain ⟨steps, last, hsteps, hid, hs, hp, hat⟩ := hu.last
  have hres : resumption chain e.steps = .ok ⟨some n.id, some (.at m)⟩ := by
    rw [hsteps, resumption_of_paused List.getLast?_concat hs hp, hat, hid]
    rfl
  obtain ⟨ctx, res, hctx, hreplay, hcomes, hend⟩ := he.takes_up hk ha hline hclock hnodes hres
  -- the wait is passed, and behind it the run goes on to the next
  have hpassed : m.le? ctx.now = some true := by
    rw [hctx.now, ← le?_of_toUtc hu.utc.known hu.utc.utc]
    exact hdue
  obtain ⟨passed, hstamp, hgo⟩ :=
    comesTo_resumed hctx.pauses hctx.isOpen hconf hreplay hpassed hcomes
  have hfresh : ∀ q ∈ ctx.replay, q.nodeId ∉ ahead.map (·.id) := by
    intro q hq
    rw [hreplay] at hq
    cases hq
    intro hmem
    obtain ⟨m, hm, hid⟩ := List.mem_map.1 hmem
    exact (split_ids hsound.nodup hnodes).2 m hm hid
  have hreach : ∀ q ∈ ahead, ctx.Reaches q := by
    intro q hq
    refine reaches_of_serves hclock.toServes hctx.now q ?_
    rw [hnodes]
    exact List.mem_append_right _ (List.mem_cons_of_mem _ hq)
  obtain ⟨report, hreport, hstamps, hleg⟩ := walk_to_wait hctx.pauses hctx.isOpen hfresh hreach
    rfl rfl (fun q hq => by rw [List.mem_singleton.1 hq]; exact hstamp) hgo
  rw [hctx.journey] at hleg
  refine hend hreport hstamps ⟨before ++ [n], ?_⟩ (Or.inr (List.cons_ne_nil _ _)) hleg
  rw [hnodes, List.append_assoc]
  rfl

/-- The id of the next enrollment. -/
def nextId (s : State σ) : String := "enrollment-" ++ toString (s.made + 1)

/-- **Enrolling a lead makes the first leg of its journey.** -/
theorem enroll_came (hholds : Holds s.files wid d) (hline : d.linearize = .ok chain)
    (hfree : s.rows.find? (nextId s) = none)
    (hwhole : lead.IsWhole) (hover : overrides.IsWhole) (hk : k.Reply Reply.Succeeds)
    (ha : Asks c₀ c lead.normalized overrides) (hclock : Suits c d source chain s.clock) :
    let op := Operation.enroll wid lead source overrides
    Came wid d source lead.normalized overrides chain k.handsOver c₀ (nextId s)
      ((callsIn c k (op.invocations c k s) (nextId s)).map (·.delivery)) (op.perform c k s)
      (journey k.handsOver c₀ (fun _ => c₀.preferred) c₀.preferred chain.nodes) := by
  intro op
  obtain ⟨w, hload, hwid, hdef⟩ := hholds s.clock.universal
  have hline' : w.definition.linearize = .ok chain := by
    rw [hdef]
    exact hline
  have hreg := run_register hload hline' lead source overrides
  obtain ⟨e, he⟩ : ∃ e, e = newcomer s w lead source overrides := ⟨_, rfl⟩
  have hid : e.id = nextId s := by
    rw [he]
    rfl
  simp only [← he] at hreg
  rw [hid, hfree, if_neg (by exact Bool.false_ne_true)] at hreg
  obtain ⟨s', hs'⟩ : ∃ s' : State σ, s' =
    { s with made := s.made + 1, rows := s.rows ++ [Row.ofEnrollment e] } := ⟨_, rfl⟩
  rw [← hs'] at hreg
  have hinv : op.invocations c k s = [⟨nextId s, none, none, s'⟩] := congrArg firstRun hreg
  have hafter : op.perform c k s = (⟨nextId s, none, none, s'⟩ : Invocation σ).after c k :=
    enroll_after hreg
  have henrolled : Enrolled wid d source lead.normalized overrides e s' := by
    have hreadable : Readable s.clock.universal :=
      Enrollment.readable_universal hclock.valid hclock.universal
    rw [hs', he]
    refine ⟨hholds, ?_, ⟨hwhole.normalized, hover, ?_, hreadable, ?_, ?_⟩, hwid, rfl,
      lead.normalized_idem, rfl, rfl⟩
    · exact Enrollment.find?_append_new hfree
    · exact fun _ h => absurd h List.not_mem_nil
    · exact fun _ h => by cases h
    · exact fun _ h => by cases h
  have hcame := henrolled.started (by rw [he]; rfl) hk ha hline (by rw [hs']; exact hclock)
  rw [hid] at hcame
  rw [hinv, hafter, callsIn_single]
  exact hcame

end

end Service
end Cadence
