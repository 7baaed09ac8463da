/-
# Every stored history has its shape

However a service is worked with, the steps stored for an enrollment of a workflow that is not
edited are a `History` of the workflow's chain (`play_history`). Nothing is asked of the clock, the
time zone or the order of the operations, and of the collaborators only that their replies do not
claim to pause a run. The invariant is `Shaped`; turns keep it (`Turns.shaped`), and operations go
by turns.

Key definitions: `Stored`, `Shaped`.
Key theorems: `Invocation.shaped`, `Turns.shaped`, `play_history`.
-/
import Cadence.Proofs.Lead.Stored
import Cadence.Proofs.Run.Resume
import Cadence.Proofs.Service.Play

namespace Cadence
namespace Service

open Time
open Enrollment (Row Rows StepRow Grown)

variable {σ : Type}

/-- Whenever it is asked for, the workflow with an id is stored with a definition. -/
def Stored (files : Workflow.Files) (wid : String) (d : Workflow.Definition) : Prop :=
  ∀ now, ∃ w, files.load now wid = .ok (some w) ∧ w.definition = d

/-- Reading steps keeps what they say. -/
theorem entries_of_read {rows : List StepRow} {steps : List Step}
    (h : rows.mapM StepRow.read = .ok steps) :
    steps.map Step.entry = rows.map StepRow.entry := by
  have hall := mapM_eq_ok.1 h
  induction hall with
  | nil => rfl
  | cons hr _ ih =>
    obtain ⟨at_, -, hr⟩ := bind_eq_ok.1 hr
    cases hr
    rw [List.map_cons, List.map_cons, ih (mapM_eq_ok.2 ‹_›)]
    rfl

/-- Reading the steps of a row keeps what they say. -/
theorem read_entries {r : Row} {e : Enrollment} (h : r.read = .ok e) :
    e.steps.map Step.entry = r.steps.map StepRow.entry :=
  entries_of_read (Enrollment.read_eq_ok.1 h).steps

/-- The invariant: the workflow is stored, rows have distinct ids, and the steps of every enrollment
of the workflow are a history of its chain. -/
structure Shaped (wid : String) (d : Workflow.Definition) (chain : Chain) (s : State σ) : Prop where
  stored : Stored s.files wid d
  ids : (s.rows.map (·.id)).Nodup
  histories : ∀ r ∈ s.rows, r.workflowId = wid →
    History chain.nodes (r.steps.map StepRow.entry)

/-- A row is the only one with its id. -/
theorem eq_of_find? {rows : Rows} (hnd : (rows.map (·.id)).Nodup) {r r' : Row} {id : String}
    (hr : rows.find? id = some r) (hmem : r' ∈ rows) (hid : r'.id = id) : r' = r := by
  have hrid : r.id = id := by simpa using List.find?_some hr
  exact List.inj_on_of_nodup_map hnd hmem (List.mem_of_find?_eq_some hr) (hid.trans hrid.symm)

/-- Where steps and rows say the same, so do the last of them. -/
theorem last_of_entries {steps : List Step} {rows : List StepRow}
    (h : steps.map Step.entry = rows.map StepRow.entry) {last : Step}
    (hlast : steps.getLast? = some last) :
    ∃ t, rows.getLast? = some t ∧ t.entry = last.entry := by
  have hentry : (rows.map StepRow.entry).getLast? = some last.entry := by
    rw [← h, List.getLast?_map, hlast]
    rfl
  rw [List.getLast?_map] at hentry
  exact Option.map_eq_some_iff.1 hentry

/-- The row of a store with distinct ids is found by its id. -/
theorem find?_of_mem {rows : Rows} (hnd : (rows.map (·.id)).Nodup) {r : Row} (hr : r ∈ rows) :
    rows.find? r.id = some r := by
  have hsome : (rows.find? r.id).isSome = true :=
    Enrollment.find?_isSome.2 (List.mem_map_of_mem hr)
  obtain ⟨r', hr'⟩ := Option.isSome_iff_exists.1 hsome
  rw [hr', eq_of_find? hnd hr' hr rfl]

/-- What holds of all rows still does after the row that was found has changed, if it holds of this
one. -/
theorem Found.forall_modify {s : State σ} {id : String} {news : Option Lead} {r : Row}
    {e : Enrollment} (hf : Found s id news r e) (hids : (s.rows.map (·.id)).Nodup) {f : Row → Row}
    {p : Row → Prop} (h : ∀ r ∈ s.rows, p r) (hrow : p r → p (f r)) :
    ∀ r' ∈ s.rows.modify id f, p r' := by
  intro r' hr'
  obtain ⟨r₀, hr₀, rfl⟩ := Enrollment.mem_modify hr'
  by_cases heq : r₀.id = id
  · obtain rfl := eq_of_find? hids hf.row hr₀ heq
    rw [if_pos heq]
    exact hrow (h _ hr₀)
  · rw [if_neg heq]
    exact h r₀ hr₀

section
variable {wid : String} {d : Workflow.Definition} {chain : Chain} {c : Config}
  {k : Collaborators σ}

theorem Idle.shaped {s s' : State σ} (h : Idle s s') (hs : Shaped wid d chain s) :
    Shaped wid d chain s' := by
  refine ⟨?_, ?_, ?_⟩
  · rw [h.files]
    exact hs.stored
  · rw [h.rows]
    exact hs.ids
  · rw [h.rows]
    exact hs.histories

/-- A new enrollment has no steps yet. -/
theorem Registered.shaped {s s' : State σ} {e : Enrollment} (h : Registered s e s')
    (hs : Shaped wid d chain s) : Shaped wid d chain s' := by
  refine ⟨?_, h.ids hs.ids, ?_⟩
  · rw [h.files]
    exact hs.stored
  · rw [h.rows]
    intro r hr hw
    rcases List.mem_append.1 hr with hr | hr
    · exact hs.histories r hr hw
    · rw [List.mem_singleton.1 hr]
      have hsteps : (Row.ofEnrollment e).steps = e.steps.map StepRow.ofStep := rfl
      rw [hsteps, h.steps]
      exact .nil chain.nodes

/-- If the row with an id only grows by what keeps its history, the invariant is kept. -/
theorem Grew.shaped {s s' : State σ} {id : String} {new : List StepRow} (h : Grew id new s s')
    (hs : Shaped wid d chain s)
    (hnew : ∀ r ∈ s.rows, r.id = id → r.workflowId = wid →
      History chain.nodes ((r.steps ++ new).map StepRow.entry)) : Shaped wid d chain s' := by
  refine ⟨?_, ?_, ?_⟩
  · rw [h.files]
    exact hs.stored
  · rw [h.rows.ids]
    exact hs.ids
  · intro r' hr' hw
    obtain ⟨r, hr, hid, hwid, hsteps⟩ := h.rows.mem hr'
    rw [hwid] at hw
    rw [hsteps]
    split
    · rename_i heq
      exact hnew r hr heq hw
    · exact hs.histories r hr hw

theorem Grew.shaped_nil {s s' : State σ} {id : String} (h : Grew id [] s s')
    (hs : Shaped wid d chain s) : Shaped wid d chain s' := by
  refine h.shaped hs ?_
  intro r hr _ hw
  rw [List.append_nil]
  exact hs.histories r hr hw

/-- An enrollment of the workflow that is ready has the workflow's chain, and its steps are the
history that is stored. -/
theorem Shaped.ready {s : State σ} (hs : Shaped wid d chain s) (hchain : d.linearize = .ok chain)
    {id : String} {e : Enrollment} {w : Workflow.Record} {chain' : Chain} {p : Resumption}
    (hready : Ready s id e w chain' p) {r : Row} (hr : r ∈ s.rows) (hid : r.id = id)
    (hw : r.workflowId = wid) : chain' = chain ∧ w.definition = d ∧
      e.steps.map Step.entry = r.steps.map StepRow.entry := by
  obtain ⟨r', e', hfind, hread, hsteps, hwid, -⟩ := hready.stored
  have hr' : r = r' := eq_of_find? hs.ids hfind hr hid
  subst hr'
  obtain ⟨w', hload, hdef⟩ := hs.stored s.clock.universal
  have hwork := hready.workflow
  rw [hwid, hw, hload] at hwork
  cases hwork
  have hline := hready.line
  rw [hdef, hchain] at hline
  refine ⟨(Except.ok.inj hline).symm, hdef, ?_⟩
  rw [hsteps]
  exact read_entries hread

theorem ofStep_entries (steps : List Step) :
    (steps.map StepRow.ofStep).map StepRow.entry = steps.map Step.entry := by
  rw [List.map_map]
  rfl

/-- **What a run records continues the history it took up.** -/
theorem Invocation.history (hs : chain.Sound) {i : Invocation σ} {e : Enrollment}
    {w : Workflow.Record} {p : Resumption} {report : Report} {h : Bool} {calls : List Exchange}
    (hhist : History chain.nodes (e.steps.map Step.entry))
    (hready : Ready i.before i.id e w chain p)
    (hcomes : (i.plan c h e w chain p).ComesTo Reply.Plain (.ok report) calls) :
    History chain.nodes ((e.steps ++ newSteps e report).map Step.entry) := by
  rcases run_history hs hhist hready.resumes hready.ahead rfl rfl rfl hcomes with
    hrun | ⟨hpaused, step, last, hstep, hlast, hlastPaused, hnode⟩
  · rcases newSteps_cases e report with hall | ⟨hnone, -⟩
    · rw [hall]
      exact hrun
    · rw [hnone, List.append_nil]
      exact hhist
  · have hstill := stillWaits_iff.2 ⟨hpaused, step, last, hstep, hlast, hlastPaused, hnode⟩
    unfold newSteps
    rw [if_pos hstill, List.append_nil]
    exact hhist

/-- **A run of an enrollment keeps the shape of its history.** -/
theorem Invocation.shaped (hk : k.Reply Reply.Plain) (hchain : d.linearize = .ok chain)
    (i : Invocation σ) (hs : Shaped wid d chain i.before) : Shaped wid d chain (i.after c k) := by
  have hsound := Workflow.linearize_sound hchain
  cases advance_cases c hk i with
  | idle _ hgrew => exact hgrew.shaped_nil hs
  | faulted _ _ hgrew => exact hgrew.shaped_nil hs
  | lost _ _ _ _ _ hgrew => exact hgrew.shaped_nil hs
  | recorded hready hcomes hgrew =>
    rename_i e w chain' p report
    refine hgrew.shaped hs ?_
    intro r hr hid hw
    obtain ⟨rfl, -, hentries⟩ := hs.ready hchain hready hr hid hw
    have hhist := hs.histories r hr hw
    rw [← hentries] at hhist
    have hnew := Invocation.history hsound hhist hready hcomes
    rwa [List.map_append, hentries, ← ofStep_entries, ← List.map_append] at hnew

theorem Turns.shaped (hk : k.Reply Reply.Plain) (hchain : d.linearize = .ok chain)
    {s s' : State σ} {is : List (Invocation σ)} (ht : Turns c k s is s')
    (hs : Shaped wid d chain s) : Shaped wid d chain s' := by
  induction ht with
  | done => exact hs
  | idle hi _ ih => exact ih (hi.shaped hs)
  | register ha _ ih => exact ih (ha.shaped hs)
  | run _ ih => exact ih (Invocation.shaped hk hchain _ hs)

/-- Whatever is done with a service keeps the shape of the histories. -/
theorem play_shaped (hk : k.Reply Reply.Plain) (hchain : d.linearize = .ok chain) :
    ∀ (ops : List Operation) {s : State σ}, Shaped wid d chain s →
      Shaped wid d chain (play c k ops s)
  | [], _, hs => hs
  | op :: ops, s, hs => by
    refine play_shaped hk hchain ops ?_
    by_cases hop : ∃ now, op = .setClock now
    · obtain ⟨now, rfl⟩ := hop
      exact ⟨hs.stored, hs.ids, hs.histories⟩
    · exact (op.turns s fun now heq => hop ⟨now, heq⟩).shaped hk hchain hs

/-- **The steps stored for an enrollment have the shape of a history of its workflow's chain**,
after whatever operations in whatever order: a finished block for each node of a prefix of the
chain, and perhaps an unfinished one for the next. The workflow must stay as it is, and have no
enrollments at the start. -/
theorem play_history (hk : k.Reply Reply.Plain) (hchain : d.linearize = .ok chain) {s : State σ}
    (hstored : Stored s.files wid d) (hids : (s.rows.map (·.id)).Nodup)
    (hnone : ∀ r ∈ s.rows, r.workflowId ≠ wid) (ops : List Operation) :
    ∀ r ∈ (play c k ops s).rows, r.workflowId = wid →
      History chain.nodes (r.steps.map StepRow.entry) :=
  (play_shaped hk hchain ops
    ⟨hstored, hids, fun r hr hw => absurd hw (hnone r hr)⟩).histories

end

/-! ### A workflow to try it on -/

namespace Sample

/-- An email, a day's wait, and a handover. -/
def definition : Workflow.Definition :=
  ⟨[⟨"start", "manual-trigger", .origin, []⟩,
    ⟨"mail", "send-email", .origin, [("subject", .str "Hello"), ("body", .str "Dear \x7bname\x7d")]⟩,
    ⟨"rest", "wait", .origin, [("amount", .int 1), ("unit", .str "days")]⟩,
    ⟨"agent", "agent-handoff", .origin, [("agentId", .str "closer")]⟩],
    [⟨"", "start", "mail"⟩, ⟨"", "mail", "rest"⟩, ⟨"", "rest", "agent"⟩], ⟨none⟩⟩

/-- Its chain. -/
def chain : Chain :=
  let trigger : Chain.Node := ⟨"start", "manual-trigger", .trigger⟩
  ⟨trigger, [trigger, ⟨"mail", "send-email", .email "Hello" "Dear \x7bname\x7d" none⟩,
    ⟨"rest", "wait", .wait 1 .days⟩, ⟨"agent", "agent-handoff", .agent "closer" none⟩]⟩

/-- The file it is stored in. -/
def file : Workflow.File :=
  ⟨.home, "flow-v1.json", .obj [("id", .str "flow"), ("name", .str "Flow"),
    ("definition", definition.toJson)]⟩

/-- A service with the workflow and nothing else, in universal time. -/
def service : State Unit :=
  { State.fresh ⟨63870000000 * second, some 0⟩ () with files := [file] }

def config : Config := ⟨Workflow.homeZone, Context.defaultTimeout, 604800000, "report"⟩

/-- Collaborators that always succeed. -/
def collaborators : Collaborators Unit := ⟨fun _ w => (.returned (.obj []), w), true⟩

/-- Somebody to write to. -/
def lead : Lead := { Lead.unknown with email := some "ada@example.org", phone := some "+32470" }

theorem whole : lead.IsWhole := by
  refine ⟨?_, ?_, ?_, ?_, ?_, ?_⟩ <;>
    (intro t ht; cases ht) <;> decide +kernel

theorem linearize_definition : definition.linearize = .ok chain := by decide

theorem stored : Stored service.files "flow" definition := by
  intro now
  refine ⟨⟨"flow", "Flow", none, .draft, definition, 1, now, now⟩, ?_, rfl⟩
  have hlatest : Workflow.Files.latest service.files "flow" = .ok (some file) := by decide +kernel
  unfold Workflow.Files.load
  rw [hlatest]
  rfl

theorem collaborators_plain : collaborators.Reply Reply.Plain := by
  intro d w m hm
  exact absurd hm List.not_mem_nil

/-- An enrollment that is advanced too early, and then in time. -/
def operations : List Operation :=
  [.enroll "flow" lead Enrollment.trialSource .none, .advance "enrollment-1" none none,
    .setClock ⟨63870172800 * second, some 0⟩, .advance "enrollment-1" none none]

end Sample

theorem play_history_sample : (play Sample.config Sample.collaborators Sample.operations
      Sample.service).rows.map (fun r => r.steps.map (·.nodeId)) =
        [["start", "mail", "rest", "rest", "agent"]] ∧
    ∀ r ∈ (play Sample.config Sample.collaborators Sample.operations Sample.service).rows,
      r.workflowId = "flow" → History Sample.chain.nodes (r.steps.map StepRow.entry) :=
  ⟨by decide +kernel,
    play_history Sample.collaborators_plain Sample.linearize_definition Sample.stored
      List.nodup_nil (fun _ hr => absurd hr List.not_mem_nil) Sample.operations⟩

end Service
end Cadence
