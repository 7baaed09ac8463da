/-
# Enrollments that have gone astray

While enrollments are on their way, their workflow is edited, and a chain need not contain the nodes
that their steps are of. Behind a step that has passed this is no matter: the next run starts behind
the last success of a node that is still there, or at the trigger. But behind a step that failed or
paused it starts at the node of this step, wherever that is. So the next run starts inside the chain,
or the chain is complete, exactly if the steps have not gone astray (`resumption_inside_iff`).

Every step that is stored and pauses says until when, if it says anything that is to be read
(`Telling`). So the next run is known for every enrollment and every chain, whatever is done with a
service. Advancing an enrollment that has not gone astray runs a node of the chain or completes the
enrollment; one that has gone astray fails without a step, and with the same steps as before, so it
stays astray until the node is back (`advances_inside_iff`).

Key definitions: `Astray`, `Resumption.Inside`, `Telling`, `Invocation.Proceeds`,
`Invocation.Strands`.
Key theorems: `resumption_inside_iff`, `carry_telling`, `advances_inside_iff`.
-/
import Cadence.Proofs.Run.Rejoined
import Cadence.Proofs.Service.Settled

namespace Cadence

variable {chain : Chain} {steps : List Step} {p : Resumption}

/-! ### Inside a chain -/

/-- Steps have gone astray of a chain if the last of them did not pass and is of none of its nodes. -/
def Astray (chain : Chain) (steps : List Step) : Prop :=
  ∃ last, steps.getLast? = some last ∧ ¬ last.Passed ∧ ∀ n ∈ chain.nodes, n.id ≠ last.nodeId

/-- The next run starts at a node of the chain, or there is none. -/
def Resumption.Inside (chain : Chain) (p : Resumption) : Prop :=
  ∀ id ∈ p.node, ∃ n ∈ chain.nodes, n.id = id

theorem firstId_inside : Resumption.Inside chain ⟨chain.firstId, none⟩ := by
  intro id hid
  obtain ⟨n, hn, rfl⟩ := Option.map_eq_some_iff.1 hid
  exact ⟨n, List.mem_of_mem_head? hn, rfl⟩

theorem after?_inside (id : String) :
    Resumption.Inside chain ⟨(chain.after? id).map (·.id), none⟩ := by
  intro id' hid
  obtain ⟨n, hn, rfl⟩ := Option.map_eq_some_iff.1 hid
  obtain ⟨i, -, hi⟩ := Option.bind_eq_some_iff.1 hn
  exact ⟨n, List.mem_of_getElem? hi, rfl⟩

/-- Behind a step that did not pass, the next run starts at its node. -/
theorem resumption_stays {last : Step} (hl : steps.getLast? = some last) (hn : ¬ last.Passed)
    (hp : resumption chain steps = .ok p) : p.node = some last.nodeId := by
  cases hs : last.status with
  | failed =>
    rw [resumption_of_failed hl hs] at hp
    cases hp
    rfl
  | success =>
    have hpaused : last.isPaused = true := by
      by_contra hno
      exact hn ⟨hs, by simpa using hno⟩
    rw [resumption_of_paused hl hs hpaused] at hp
    obtain ⟨due, -, rfl⟩ := map_eq_ok.1 hp
    rfl

/-- Behind a step that passed, and where there is none, the next run starts inside the chain. -/
theorem resumption_goes_on (hl : ∀ last ∈ steps.getLast?, last.Passed)
    (hp : resumption chain steps = .ok p) : p.Inside chain := by
  unfold resumption at hp
  split at hp
  · cases hp
    exact firstId_inside
  · rename_i last hlast
    obtain ⟨hs, hno⟩ := hl last hlast
    simp only [hs, reduceCtorEq, if_false, hno, Bool.false_eq_true] at hp
    split at hp
    · cases hp
      exact after?_inside _
    · cases hp
      exact firstId_inside

/-- **The next run starts inside the chain exactly if the steps have not gone astray.** -/
theorem resumption_inside_iff (hp : resumption chain steps = .ok p) :
    p.Inside chain ↔ ¬ Astray chain steps := by
  constructor
  · rintro hinside ⟨last, hlast, hnot, hnone⟩
    obtain ⟨n, hn, hid⟩ := hinside last.nodeId (resumption_stays hlast hnot hp)
    exact hnone n hn hid
  · intro hno
    by_cases hl : ∀ last ∈ steps.getLast?, last.Passed
    · exact resumption_goes_on hl hp
    · push Not at hl
      obtain ⟨last, hlast, hnot⟩ := hl
      intro id hid
      rw [resumption_stays hlast hnot hp] at hid
      cases hid
      by_contra hnone
      push Not at hnone
      exact hno ⟨last, hlast, hnot, hnone⟩

/-- The next run is known if the last step says until when it pauses, if it does. -/
theorem resumption_known (chain : Chain)
    (hl : ∀ last ∈ steps.getLast?, last.isPaused = true → ∃ due, last.due? = .ok due) :
    ∃ p, resumption chain steps = .ok p := by
  unfold resumption
  split
  · exact ⟨_, rfl⟩
  · rename_i last hlast
    split
    · exact ⟨_, rfl⟩
    split
    · rename_i hpaused
      obtain ⟨due, hdue⟩ := hl last hlast hpaused
      rw [hdue]
      exact ⟨_, rfl⟩
    split
    · exact ⟨_, rfl⟩
    · exact ⟨_, rfl⟩

/-- A run from a node that is not in the chain fails at once. -/
theorem runFrom_astray {id : String} (hid : ∀ n ∈ chain.nodes, n.id ≠ id) (h : Bool)
    (reportId : String) (c : Context) : chain.runFrom h reportId c (some id) =
      .done (.ok ((Report.opening reportId c.stamp).failure
        ⟨"Start node not found in workflow: " ++ id, none⟩ c.stamp)) := by
  have hindex : chain.indexOf? id = none := by
    unfold Chain.indexOf?
    rw [List.findIdx?_eq_none_iff]
    intro n hn
    simpa using hid n hn
  unfold Chain.runFrom
  simp only [hindex]

/-- A run over nodes starts with a step of the first, and complains of its nodes only. -/
theorem walk_begins {P : Reply → Prop} {h : Bool} {c : Context} {n : Chain.Node}
    {rest : List Chain.Node} {id : String} {report : Report} {xs : List Exchange}
    (hr : (runNodes h c (Report.opening id c.stamp) (n :: rest)).ComesTo P (.ok report) xs) :
    (∃ s, report.steps.head? = some s ∧ s.nodeId = n.id) ∧
      ∀ complaint ∈ report.error, ∃ m ∈ n :: rest, complaint.node = some m.id := by
  have hsegment := walk_prefix rfl hr
  constructor
  · obtain ⟨steps, hsteps, -, hcloses⟩ := walk_closes rfl rfl hr
    have hreport : report.steps = steps := hsteps
    obtain ⟨last, hlast, -⟩ := hcloses.ends (List.cons_ne_nil _ _)
    obtain ⟨s, steps', rfl⟩ := List.exists_cons_of_ne_nil
      (List.ne_nil_of_mem (List.mem_of_getLast? hlast))
    rw [hreport, List.map_cons, List.map_cons, List.cons_prefix_cons] at hsegment
    exact ⟨s, by rw [hreport, List.head?_cons], hsegment.1⟩
  · obtain ⟨hfailed, hfine, -⟩ := walk_names rfl rfl hr
    intro complaint hcomplaint
    cases hs : report.status with
    | success =>
      rw [hfine hs] at hcomplaint
      cases hcomplaint
    | failed =>
      obtain ⟨last, message, hlast, herror⟩ := hfailed hs
      rw [herror] at hcomplaint
      cases hcomplaint
      have hmem := hsegment.subset (List.mem_map_of_mem (List.mem_of_getLast? hlast))
      obtain ⟨m, hm, hid⟩ := List.mem_map.1 hmem
      exact ⟨m, hm, congrArg some hid.symm⟩

/-! ### Steps that are stored -/

namespace Service

open Time
open Enrollment (Row Rows StepRow recorded)

variable {σ : Type} {c : Config} {k : Collaborators σ}

/-- Every step of a row that pauses says until when, if it says anything that is to be read. -/
structure Telling (r : Row) : Prop where
  steps : ∀ t ∈ r.steps, ∀ s : Step, s.entry = t.entry → s.isPaused = true →
    ∃ due, s.due? = .ok due

theorem due?_of_entry {s s' : Step} (h : s.entry = s'.entry) : s.due? = s'.due? := by
  have hout : s.output = s'.output := congrArg Entry.output h
  unfold Step.due? Step.get
  rw [hout]

/-- The pauses of a report say until when they are. -/
theorem closes_tell {P : Reply → Prop} {h : Bool} {ctx : Context} {nodes : List Chain.Node}
    {report : Report} (hc : Closes P h ctx nodes report steps) :
    ∀ s ∈ steps, s.isPaused = true → ∃ due, s.due? = .ok due := by
  have hpassed : ∀ {s : Step}, s.Passed → s.isPaused = true → ∃ due, s.due? = .ok due :=
    fun hs hp => absurd (hs.2.symm.trans hp) Bool.false_ne_true
  intro s hs hp
  cases hc with
  | arrived hall => exact hpassed (hall s hs) hp
  | failed hbefore hf _ _ _ hran =>
    rcases List.mem_append.1 hs with hs | hs
    · exact hpassed (hbefore s hs) hp
    · rw [List.mem_singleton.1 hs, hran.failed_isPaused hf] at hp
      cases hp
  | paused hbefore _ _ hdue =>
    rcases List.mem_append.1 hs with hs | hs
    · exact hpassed (hbefore s hs) hp
    · rw [List.mem_singleton.1 hs]
      exact ⟨_, hdue⟩

theorem Telling.refreshed {r : Row} (h : Telling r) (news : Option Lead) (e : Enrollment) :
    Telling (refreshed news e r) := by
  cases news <;> exact ⟨h.steps⟩

theorem Telling.recorded {r : Row} (h : Telling r) {new : List Step}
    (hnew : ∀ s ∈ new, s.isPaused = true → ∃ due, s.due? = .ok due) (status : Enrollment.Status)
    (completedAt resumeAt : Option Moment) :
    Telling (Enrollment.recorded new status completedAt resumeAt r) := by
  refine ⟨fun t ht s hentry hp => ?_⟩
  rcases List.mem_append.1 ht with ht | ht
  · exact h.steps t ht s hentry hp
  · obtain ⟨s', hs', rfl⟩ := List.mem_map.1 ht
    have hsame : s.entry = s'.entry := hentry
    rw [due?_of_entry hsame]
    refine hnew s' hs' ?_
    rw [← Step.entry_isPaused, ← hsame, Step.entry_isPaused, hp]

/-- A run leaves the row that it touches telling, whatever the replies are. -/
theorem Touched.telling {i : Invocation σ} {r r' : Row} {e : Enrollment} (hr : Telling r)
    (ht : Touched (fun _ => True) c k i r e r') : Telling r' := by
  have hrefreshed := hr.refreshed i.news e
  have hnone : ∀ s ∈ ([] : List Step), s.isPaused = true → ∃ due, s.due? = .ok due :=
    fun _ hs => absurd hs List.not_mem_nil
  cases ht with
  | told => exact hrefreshed
  | flawed => exact hrefreshed.recorded hnone _ _ _
  | complete => exact hrefreshed.recorded hnone _ _ _
  | recorded _ hcomes =>
    rename_i report _ _ _ _ _
    refine hrefreshed.recorded (fun s hs => ?_) _ _ _
    have hs' := newSteps_subset e report hs
    rcases run_closes hcomes with ⟨-, -, hnil⟩ | ⟨nodes, -, -, -, hcloses⟩
    · rw [hnil] at hs'
      exact absurd hs' List.not_mem_nil
    · exact closes_tell hcloses s hs'

/-- **Whatever is done with a service, the pauses that are stored say until when they are.** -/
theorem carry_telling {s : State σ} (hrows : s.rows = []) (cmds : List Command) :
    ∀ r ∈ (carry c k cmds s).rows, Telling r := by
  refine (carry_allRows (F := fun _ => True) (fun _ => trivial) (fun cmd _ s _ h => ?_)
    (.of_empty (Q := fun _ => True) trivial hrows)).rows
  refine cmd.allRows k.reply_any (fun _ _ => ⟨fun t ht => absurd ht List.not_mem_nil⟩)
    (fun _ _ _ _ r e r' _ hr ht => ht.telling hr) (fun _ => trivial) h

/-- The next run of an enrollment is known whose stored pauses say until when they are. -/
theorem Found.resumption_known {s : State σ} {id : String} {news : Option Lead} {r : Row}
    {e : Enrollment} (hf : Found s id news r e) (hr : Telling r) (chain : Chain) :
    ∃ p, resumption chain e.steps = .ok p := by
  refine Cadence.resumption_known chain fun last hlast hp => ?_
  have hmem : last.entry ∈ r.steps.map StepRow.entry := by
    rw [← hf.entries]
    exact List.mem_map_of_mem (List.mem_of_getLast? hlast)
  obtain ⟨t, ht, hentry⟩ := List.mem_map.1 hmem
  exact hr.steps t ht last hentry.symm hp

/-! ### Advancing -/

namespace Invocation

/-- A run goes over nodes of a chain: it does what running them one after the other does. -/
def Covers (c : Config) (k : Collaborators σ) (i : Invocation σ) (e : Enrollment)
    (w : Workflow.Record) (chain : Chain) (p : Resumption) (nodes : List Chain.Node) : Prop :=
  let o := runOptions c e w p i.ignore i.before.clock
  i.plan c k.handsOver e w chain p =
    runNodes k.handsOver (o.context o.sendWindow) (Report.opening o.id o.stamp) nodes

/-- A run that gets on: it completes the enrollment without a step, or it goes over the nodes of the
chain from some node on. If it has a report then, the first step is one of this node, and the
report complains of nodes of the chain only. -/
inductive Proceeds (c : Config) (k : Collaborators σ) (i : Invocation σ) (r : Row) (e : Enrollment)
    (w : Workflow.Record) (chain : Chain) : Prop
  | completes {r' : Row} : i.calls c k = [] →
      i.result c k = .ok (emptyReport c i.before.clock.universal) →
      (i.after c k).rows.find? i.id = some r' → r'.status = .success → r'.steps = r.steps →
      Proceeds c k i r e w chain
  | runs {p : Resumption} {n : Chain.Node} {rest : List Chain.Node} :
      resumption chain e.steps = .ok p → p.node = some n.id → n :: rest <:+ chain.nodes →
      i.Covers c k e w chain p (n :: rest) →
      (∀ report, i.result c k = .ok report →
        (∃ s, report.steps.head? = some s ∧ s.nodeId = n.id) ∧
          ∀ complaint ∈ report.error, ∃ m ∈ n :: rest, complaint.node = some m.id) →
      Proceeds c k i r e w chain

/-- A run that is stranded: it asks nobody, fails without a step because there is no node to start
at, and leaves the steps of the enrollment as they were. -/
structure Strands (c : Config) (k : Collaborators σ) (i : Invocation σ) (r : Row) : Prop where
  calls : i.calls c k = []
  fails : ∃ id report, i.result c k = .ok report ∧ report.status = .failed ∧ report.steps = [] ∧
    report.error = some ⟨"Start node not found in workflow: " ++ id, none⟩
  stays : ∃ r', (i.after c k).rows.find? i.id = some r' ∧ r'.status = .failed ∧ r'.steps = r.steps

/-- No run both gets on and is stranded. -/
theorem Strands.not_proceeds {i : Invocation σ} {r : Row} {e : Enrollment} {w : Workflow.Record}
    (h : i.Strands c k r) : ¬ i.Proceeds c k r e w chain := by
  obtain ⟨id, report, hresult, hfailed, hnil, -⟩ := h.fails
  rintro (⟨-, hdone, -, -, -⟩ | ⟨-, -, -, -, hreports⟩)
  · rw [hresult] at hdone
    cases hdone
    cases hfailed
  · obtain ⟨⟨s, hs, -⟩, -⟩ := hreports report hresult
    rw [hnil] at hs
    cases hs

end Invocation

section
variable {i : Invocation σ} {r : Row} {e : Enrollment} {w : Workflow.Record}

/-- The row of an enrollment behind a run that changed nothing else of it than news and verdict. -/
theorem Found.find?_recorded (hf : Found i.before i.id i.news r e) {new : List Step}
    {status : Enrollment.Status} {completedAt resumeAt : Option Moment} {rows : Rows}
    (hrows : rows = i.before.rows.modify i.id
      (recorded new status completedAt resumeAt ∘ refreshed i.news e)) :
    rows.find? i.id = some (recorded new status completedAt resumeAt (refreshed i.news e r)) := by
  rw [hrows, Enrollment.find?_modify, hf.row]
  · rfl
  · exact fun r => refreshed_id i.news e r

/-- An enrollment whose chain is complete is ended. -/
theorem Found.completes (hf : Found i.before i.id i.news r e)
    (hload : i.before.files.load i.before.clock.universal e.workflowId = .ok (some w))
    (hline : w.definition.linearize = .ok chain) (hp : resumption chain e.steps = .ok p)
    (hnone : p.node = none) : i.Proceeds c k r e w chain := by
  have hbegin := begin_complete c k.handsOver i.ignore hf hload hline hp hnone
  have hrun := run_advance_over c k (.ok (emptyReport c i.before.clock.universal)) hbegin
  have hafter : i.after c k =
      closed i.id i.news e .success (e.completedAt.getD i.before.clock) i.before := by
    unfold Invocation.after Op.after
    rw [hrun]
  refine .completes (calls_of_no_plan hbegin (by rintro e now plan ⟨⟩)) ?_
    (hf.find?_recorded (congrArg State.rows hafter)) rfl ?_
  · unfold Invocation.result
    rw [hrun]
  · show (refreshed i.news e r).steps ++ _ = _
    rw [refreshed_steps, List.map_nil, List.append_nil]

/-- An enrollment whose next run starts inside the chain gets on. -/
theorem Found.proceeds (hf : Found i.before i.id i.news r e)
    (hload : i.before.files.load i.before.clock.universal e.workflowId = .ok (some w))
    (hline : w.definition.linearize = .ok chain) (hp : resumption chain e.steps = .ok p)
    (hinside : p.Inside chain) : i.Proceeds c k r e w chain := by
  cases hnode : p.node with
  | none => exact hf.completes hload hline hp hnode
  | some id =>
    obtain ⟨n, hn, rfl⟩ := hinside id hnode
    obtain ⟨done, rest, hnodes⟩ := List.append_of_mem hn
    have hready := hf.ready hload hline hp (by rw [hnode]; rfl)
    have hcovers : i.Covers c k e w chain p (n :: rest) := by
      have hrun := runFrom_append (Workflow.linearize_sound hline).nodup hnodes k.handsOver
        (runOptions c e w p i.ignore i.before.clock).id
        ((runOptions c e w p i.ignore i.before.clock).context
          (runOptions c e w p i.ignore i.before.clock).sendWindow)
      rw [← hnode] at hrun
      exact hrun
    refine .runs hp hnode ⟨done, hnodes.symm⟩ hcovers fun report hresult => ?_
    have hcomes := Plan.comesTo_run k.reply_any (i.plan c k.handsOver e w chain p) i.before.world
    rw [made_of_result hf hready hresult, hcovers] at hcomes
    exact walk_begins hcomes

/-- An enrollment that has gone astray is stranded. -/
theorem Found.strands (hf : Found i.before i.id i.news r e)
    (hload : i.before.files.load i.before.clock.universal e.workflowId = .ok (some w))
    (hline : w.definition.linearize = .ok chain) (hp : resumption chain e.steps = .ok p)
    (hastray : Astray chain e.steps) : i.Strands c k r := by
  obtain ⟨last, hlast, hnot, hnone⟩ := hastray
  have hnode := resumption_stays hlast hnot hp
  have hready := hf.ready hload hline hp (by rw [hnode]; rfl)
  have hplan := runFrom_astray hnone k.handsOver
    (runOptions c e w p i.ignore i.before.clock).id
    ((runOptions c e w p i.ignore i.before.clock).context
      (runOptions c e w p i.ignore i.before.clock).sendWindow)
  rw [← hnode] at hplan
  obtain ⟨report, hdone, hfailed, hnil, hno, herror⟩ : ∃ report,
      i.plan c k.handsOver e w chain p = .done (.ok report) ∧ report.status = .failed ∧
        report.steps = [] ∧ report.isPaused = false ∧
        report.error = some ⟨"Start node not found in workflow: " ++ last.nodeId, none⟩ :=
    ⟨_, hplan, rfl, rfl, rfl, rfl⟩
  have hmade : ((i.plan c k.handsOver e w chain p).run k i.before.world).1 = .ok report := by
    rw [hdone]
    rfl
  have hv : Verdict i.before.clock report .failed (some i.before.clock) none := .failed hfailed
  refine ⟨?_, ⟨last.nodeId, report, result_ready hf hready hmade hv, hfailed, hnil, herror⟩,
    _, hf.find?_recorded (rows_ready hf hready hmade hv), rfl, ?_⟩
  · rw [calls_ready hf hready, hdone]
    rfl
  · show (refreshed i.news e r).steps ++ _ = _
    rw [newSteps_of_not_paused e hno, hnil, refreshed_steps, List.map_nil, List.append_nil]

/-- **The next run of an enrollment starts inside the chain exactly if its steps have not gone
astray**, whatever was done with the service before, and whatever chain its workflow is by now. So
an advance gets on exactly if they have not, and else it is stranded. -/
theorem advances_inside_iff {s : State σ} (hrows : s.rows = []) {cmds : List Command}
    (hbefore : i.before = carry c k cmds s) (hf : Found i.before i.id i.news r e) :
    (∀ chain, ∃ p, resumption chain e.steps = .ok p ∧
      (p.Inside chain ↔ ¬ Astray chain e.steps)) ∧
    ∀ w chain, i.before.files.load i.before.clock.universal e.workflowId = .ok (some w) →
      w.definition.linearize = .ok chain →
      (i.Proceeds c k r e w chain ↔ ¬ Astray chain e.steps) ∧
        (i.Strands c k r ↔ Astray chain e.steps) := by
  have htelling : Telling r := by
    refine carry_telling (c := c) (k := k) hrows cmds r ?_
    rw [← hbefore]
    exact hf.mem
  refine ⟨fun chain => ?_, fun w chain hload hline => ?_⟩
  · obtain ⟨p, hp⟩ := hf.resumption_known htelling chain
    exact ⟨p, hp, resumption_inside_iff hp⟩
  · obtain ⟨p, hp⟩ := hf.resumption_known htelling chain
    have hgets : ¬ Astray chain e.steps → i.Proceeds c k r e w chain := fun hno =>
      hf.proceeds hload hline hp ((resumption_inside_iff hp).2 hno)
    have hstuck : Astray chain e.steps → i.Strands c k r := hf.strands hload hline hp
    exact ⟨⟨fun hproceeds hastray => (hstuck hastray).not_proceeds hproceeds, hgets⟩,
      ⟨fun hstrands => by_contra fun hno => hstrands.not_proceeds (hgets hno), hstuck⟩⟩

end

/-! ### A workflow that is replaced -/

namespace Sample

/-- A workflow with the id of the sample's and none of its nodes. -/
def replacement : Workflow.Record :=
  ⟨"flow", "Flow", none, .draft, ⟨[⟨"begin", "manual-trigger", .origin, []⟩], [], ⟨none⟩⟩, 1,
    service.clock, service.clock⟩

/-- Its chain. -/
def replacementChain : Chain :=
  let trigger : Chain.Node := ⟨"begin", "manual-trigger", .trigger⟩
  ⟨trigger, [trigger]⟩

/-- The email to somebody without an address fails, and then the workflow is replaced. -/
def replaced : State Unit :=
  carry config collaborators [.operate (.enroll "flow" .unknown Enrollment.trialSource .none),
    .save replacement] service

/-- The advance behind that. -/
def retried : Invocation Unit := ⟨"enrollment-1", none, none, replaced⟩

/-- What is stored then, and what the advance comes to, from one evaluation. -/
theorem replaced_looks :
    (replaced.files.load replaced.clock.universal "flow").map
        (fun w => w.map (·.definition.linearize)) = .ok (some (.ok replacementChain)) ∧
      (replaced.rows.get "enrollment-1").map (fun e => e.map fun e =>
        (e.workflowId, e.steps.getLast?.map fun s => (s.status, s.nodeId))) =
          .ok (some ("flow", some (.failed, "mail"))) ∧
      (replaced.rows.get "enrollment-1").map
        (fun e => e.map (resumption replacementChain ·.steps)) =
          .ok (some (.ok ⟨some "mail", none⟩)) ∧
      (retried.result config collaborators).map
        (fun report => (report.status, report.steps, report.error)) =
          .ok (.failed, [], some ⟨"Start node not found in workflow: mail", none⟩) := by
  decide +kernel

end Sample

/-- The enrollment of the sample has gone astray, and its next advance is stranded. -/
theorem advances_inside_iff_replaced : ∃ r e w,
    Found Sample.retried.before Sample.retried.id Sample.retried.news r e ∧
      Sample.retried.before.files.load Sample.retried.before.clock.universal e.workflowId =
        .ok (some w) ∧
      w.definition.linearize = .ok Sample.replacementChain ∧
      Astray Sample.replacementChain e.steps ∧
      Sample.retried.Strands Sample.config Sample.collaborators r := by
  obtain ⟨hworkflow, henrollment, -⟩ := Sample.replaced_looks
  obtain ⟨stored, hload, hstored⟩ := map_eq_ok.1 hworkflow
  obtain ⟨w, rfl, hline⟩ := Option.map_eq_some_iff.1 hstored
  obtain ⟨found, hget, hfound⟩ := map_eq_ok.1 henrollment
  obtain ⟨e, rfl, hsays⟩ := Option.map_eq_some_iff.1 hfound
  obtain ⟨hwid, hsteps⟩ := Prod.mk.inj hsays
  obtain ⟨last, hlast, hfailed⟩ := Option.map_eq_some_iff.1 hsteps
  obtain ⟨hstatus, hid⟩ := Prod.mk.inj hfailed
  obtain ⟨r, hrow, hread⟩ := get_eq_ok hget
  have hf : Found Sample.retried.before Sample.retried.id Sample.retried.news r e :=
    ⟨hrow, e, hread, rfl⟩
  have hload' : Sample.retried.before.files.load Sample.retried.before.clock.universal
      e.workflowId = .ok (some w) := by
    rw [hwid]
    exact hload
  have hastray : Astray Sample.replacementChain e.steps := by
    refine ⟨last, hlast, fun hpassed => ?_, ?_⟩
    · exact absurd (hpassed.1.symm.trans hstatus) (by decide)
    · rw [hid]
      decide
  have hboth := (advances_inside_iff (c := Sample.config) (k := Sample.collaborators) rfl rfl hf).2
    w Sample.replacementChain hload' hline
  exact ⟨r, e, w, hf, hload', hline, hastray, hboth.2.2 hastray⟩

/-- **An email that failed is to be sent again by a workflow that no longer has it.** The workflow
can be run, but the run starts at a node that it does not have, and fails. -/
theorem replaced_email_strands :
    (Sample.replaced.files.load Sample.replaced.clock.universal "flow").map
        (fun w => w.map (·.definition.linearize)) = .ok (some (.ok Sample.replacementChain)) ∧
      (Sample.replaced.rows.get "enrollment-1").map
        (fun e => e.map (resumption Sample.replacementChain ·.steps)) =
          .ok (some (.ok ⟨some "mail", none⟩)) ∧
      (Sample.retried.result Sample.config Sample.collaborators).map
        (fun report => (report.status, report.steps, report.error)) =
          .ok (.failed, [], some ⟨"Start node not found in workflow: mail", none⟩) :=
  have ⟨hworkflow, _, hresumes, hfails⟩ := Sample.replaced_looks
  ⟨hworkflow, hresumes, hfails⟩

end Service
end Cadence
