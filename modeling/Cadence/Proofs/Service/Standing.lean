/-
# The row of an enrollment is all of a piece

Status, times and last step of an enrollment are written together, so they fit together whenever
nothing is under way: an enrollment is in progress until it has a time of completion, a due time is
that of the pause its last step tells of, and an enrollment that has steps and is in progress has a
due time. This holds whatever is done with the service and its workflows, also where a wait is
edited away while an enrollment is paused at it.

The invariant of a row is `Standing`. It says besides that the row can be read, because a run starts
from what it reads, and that all pauses say until when, because an enrollment that still waits gets
no further step: its due time is then that of a pause which was recorded before.

Key definitions: `Aware`, `Command.Proper`, `Until`, `Standing`, `AllStanding`.
Key theorems: `closes_pause`, `Invocation.standing`, `Command.standing`.
-/
import Cadence.Proofs.Enrollment.Stored
import Cadence.Proofs.Run.Reported
import Cadence.Proofs.Service.Delivered
import Cadence.Proofs.Service.Touched

namespace Cadence
namespace Service

open Time
open Enrollment (Row Rows StepRow Status Storable Readable keptFields recorded)

variable {σ : Type}

/-! ### Clocks and commands -/

/-- A time of a clock that knows its offset, and that universal time can show. -/
structure Aware (m : Moment) : Prop where
  valid : m.IsValid
  known : m.offset.isSome = true
  universal : m.toUtc.isSome = true

theorem aware_of_utc {reading : Int} (h0 : 0 ≤ reading) (h1 : reading < endOfTime) :
    Aware ⟨reading, some 0⟩ := by
  refine ⟨⟨?_, ?_⟩, rfl, rfl⟩
  · simp only [Moment.shows, Bool.and_eq_true, decide_eq_true_eq]
    exact ⟨h0, h1⟩
  · intro o ho
    cases ho
    decide

/-- What such a clock stamps can be read. -/
theorem Aware.stamp {m : Moment} (h : Aware m) : Readable m.universal := by
  refine Enrollment.readable_universal h.valid ?_
  rw [assumeUtc_of_known h.known]
  exact h.universal

/-- The times of the new steps of a run can be read, if its clock is such a clock. -/
theorem Aware.newSteps {P : Reply → Prop} {h : Bool} {i : Invocation σ}
    (hclock : Aware i.before.clock) {e : Enrollment} {w : Workflow.Record} {chain : Chain} {p : Resumption} {report : Report}
    {calls : List Exchange} (hcomes : (i.plan c h e w chain p).ComesTo P (.ok report) calls) :
    ∀ s ∈ newSteps e report, Readable s.createdAt := by
  intro s hs
  rcases run_closes hcomes with ⟨-, hno, hnil⟩ | ⟨nodes, -, -, hats, -⟩
  · rw [newSteps_of_not_paused e hno, hnil] at hs
    cases hs
  · rw [hats s (newSteps_subset e report hs)]
    exact hclock.stamp

/-- What is asked of a command: the texts it brings are whole, and it sets the clock to times of
some kind. -/
def Command.Proper (Q : Moment → Prop) : Command → Prop
  | .operate (.enroll _ lead _ overrides) => lead.IsWhole ∧ overrides.IsWhole
  | .operate (.advance _ _ news) => ∀ lead ∈ news, lead.IsWhole
  | .operate (.setClock now) => Q now
  | _ => True

theorem Command.Proper.sets {Q : Moment → Prop} {cmd : Command} (h : cmd.Proper Q) :
    cmd.Sets Q := by
  cases cmd with
  | operate op =>
    cases op with
    | setClock now => exact h
    | _ => trivial
  | _ => trivial

theorem Command.Proper.imp {Q Q' : Moment → Prop} {cmd : Command} (h : cmd.Proper Q)
    (hQ : ∀ m, Q m → Q' m) : cmd.Proper Q' := by
  cases cmd with
  | operate op =>
    cases op with
    | setClock now => exact hQ now h
    | _ => exact h
  | _ => trivial

theorem Command.Proper.restrict {Q Q' : Moment → Prop} {cmd : Command} (h : cmd.Proper Q)
    (h' : cmd.Sets Q') : cmd.Proper fun m => Q m ∧ Q' m := by
  cases cmd with
  | operate op =>
    cases op with
    | setClock now => exact ⟨h, h'⟩
    | _ => exact h
  | _ => trivial

theorem Command.Proper.and {Q Q' : Moment → Prop} {cmd : Command} (h : cmd.Proper Q)
    (h' : cmd.Proper Q') : cmd.Proper fun m => Q m ∧ Q' m :=
  h.restrict h'.sets

/-! ### The invariant -/

/-- A stored step paused a run until a moment. -/
structure Until (t : StepRow) (due : Moment) : Prop where
  status : t.status = .success
  paused : t.entry.isPaused = true
  text : Json.Fields.getD t.output "resumeAt" = .str due.iso
  valid : due.IsValid
  known : due.offset.isSome = true

/-- The invariant of a row, where the clock shows times of some kind. -/
structure Standing (Q : Moment → Prop) (r : Row) : Prop where
  lead : ∃ lead : Lead, lead.IsWhole ∧ r.lead = keptFields lead.toJson
  overrides : ∃ o : Overrides, o.IsWhole ∧ r.overrides = keptFields o.toJson
  createdAt : ∃ m, Readable m ∧ r.createdAt = m.iso
  times : ∀ t ∈ r.steps, ∃ m, Readable m ∧ t.createdAt = m.iso
  completedAt : (∀ m, Q m → Decode.WholeMinutes m) → ∀ text ∈ r.completedAt,
    ∃ m, Readable m ∧ text = m.iso
  open_iff : r.status = .inProgress ↔ r.completedAt = none
  waits : r.status = .inProgress → r.steps ≠ [] → r.resumeAt.isSome = true
  dated : ∀ t ∈ r.steps, t.entry.isPaused = true → ∃ due, Until t due
  due : ∀ text ∈ r.resumeAt, r.status = .inProgress ∧ ∃ t due u, r.steps.getLast? = some t ∧
    Until t due ∧ InUtc due.kept u ∧ text = u.iso

/-- The invariant: every row stands, and rows have distinct ids. -/
structure AllStanding (Q : Moment → Prop) (s : State σ) : Prop where
  clock : Q s.clock
  ids : (s.rows.map (·.id)).Nodup
  rows : ∀ r ∈ s.rows, Standing Q r

/-! ### Reading a row -/

section
variable {Q : Moment → Prop} {r : Row} {e : Enrollment}

theorem Standing.legible (h : Standing Q r) : r.Legible :=
  ⟨h.lead, h.overrides, h.createdAt, h.times⟩

/-- The time of completion that is read from a row that stands. -/
theorem Standing.read_completedAt (h : Standing Q r) (hread : r.read = .ok e)
    (hminutes : ∀ m, Q m → Decode.WholeMinutes m) : ∀ m ∈ e.completedAt, Readable m := by
  intro m hm
  have hcompleted := (Enrollment.read_eq_ok.1 hread).completedAt
  cases htext : r.completedAt with
  | none =>
    rw [htext] at hcompleted
    rw [← Except.ok.inj hcompleted] at hm
    cases hm
  | some text =>
    obtain ⟨m', hm', heq⟩ := h.completedAt hminutes text htext
    rw [htext, heq] at hcompleted
    obtain ⟨m'', htime, hcompleted⟩ := map_eq_ok.1 hcompleted
    rw [hm'.readTime] at htime
    cases htime
    rw [← hcompleted] at hm
    cases hm
    exact hm'

/-- A row that stands is that of an enrollment, if its time of completion can be read. -/
theorem Standing.storable (h : Standing Q r)
    (hcompleted : ∀ text ∈ r.completedAt, ∃ m, Readable m ∧ text = m.iso) :
    ∃ e, Storable e ∧ r = Row.ofEnrollment e := by
  refine h.legible.storable hcompleted ?_
  intro text htext
  obtain ⟨-, t, due, u, -, -, hutc, heq⟩ := h.due text htext
  exact ⟨u, Enrollment.readable_of_utc (toUtc_isValid hutc.valid hutc.utc) (toUtc_eq hutc.utc).1,
    heq⟩

/-! ### What is written to a row -/

/-- Storing news about a lead keeps the row standing. -/
theorem Standing.refreshed (h : Standing Q r) (he : e.lead.IsWhole) (news : Option Lead) :
    Standing Q (refreshed news e r) := by
  cases news with
  | none => exact h
  | some news =>
    exact ⟨⟨e.lead, he, rfl⟩, h.overrides, h.createdAt, h.times, h.completedAt, h.open_iff, h.waits,
      h.dated, h.due⟩

/-- The steps of a row after further ones. -/
theorem Standing.append_steps (h : Standing Q r) {steps : List Step}
    (hnew : ∀ s ∈ steps, Readable s.createdAt ∧
      (s.isPaused = true → ∃ due, Until (StepRow.ofStep s) due)) :
    (∀ t ∈ r.steps ++ steps.map StepRow.ofStep, ∃ m, Readable m ∧ t.createdAt = m.iso) ∧
      ∀ t ∈ r.steps ++ steps.map StepRow.ofStep, t.entry.isPaused = true →
        ∃ due, Until t due := by
  refine ⟨h.legible.append_times fun s hs => (hnew s hs).1, ?_⟩
  intro t ht hp
  rcases List.mem_append.1 ht with ht | ht
  · exact h.dated t ht hp
  · obtain ⟨s, hs, rfl⟩ := List.mem_map.1 ht
    exact (hnew s hs).2 hp

/-- A run that ends an enrollment keeps its row standing. -/
theorem Standing.ended (h : Standing Q r) {steps : List Step} {status : Status} {at_ : Moment}
    (hstatus : status ≠ .inProgress)
    (hcompleted : (∀ m, Q m → Decode.WholeMinutes m) → Readable at_)
    (hsteps : ∀ s ∈ steps, Readable s.createdAt) (hpassed : ∀ s ∈ steps, s.isPaused = false) :
    Standing Q (recorded steps status (some at_) none r) := by
  obtain ⟨htimes, hdated⟩ := h.append_steps fun s hs =>
    ⟨hsteps s hs, fun hp => absurd ((hpassed s hs).symm.trans hp) Bool.false_ne_true⟩
  refine ⟨h.lead, h.overrides, h.createdAt, htimes, ?_, ?_, ?_, hdated, ?_⟩
  · intro hminutes text htext
    cases htext
    exact ⟨at_, hcompleted hminutes, rfl⟩
  · exact ⟨fun hopen => absurd hopen hstatus, fun hnone => by cases hnone⟩
  · exact fun hopen => absurd hopen hstatus
  · intro text htext
    cases htext

/-- A run that pauses an enrollment keeps its row standing, if its last step, which may have been
there before, says until when. -/
theorem Standing.paused (h : Standing Q r) {steps : List Step} {t : StepRow} {due u : Moment}
    (htimes : ∀ t ∈ r.steps ++ steps.map StepRow.ofStep, ∃ m, Readable m ∧ t.createdAt = m.iso)
    (hdated : ∀ t ∈ r.steps ++ steps.map StepRow.ofStep, t.entry.isPaused = true →
      ∃ due, Until t due)
    (hlast : (r.steps ++ steps.map StepRow.ofStep).getLast? = some t) (hdue : Until t due)
    (hutc : InUtc due.kept u) : Standing Q (recorded steps .inProgress none (some u) r) := by
  refine ⟨h.lead, h.overrides, h.createdAt, htimes, ?_, ?_, ?_, hdated, ?_⟩
  · intro _ text htext
    cases htext
  · exact ⟨fun _ => rfl, fun _ => rfl⟩
  · exact fun _ _ => rfl
  · intro text htext
    cases htext
    exact ⟨rfl, t, due, u, hlast, hdue, hutc, rfl⟩

end

/-! ### A run -/

section
variable {Q : Moment → Prop} {c : Config} {k : Collaborators σ}

/-- The due time that a run comes back with is one that was recorded. -/
theorem replay_until {r : Row} (h : Standing Q r) {e : Enrollment}
    (hsteps : r.steps = e.steps.map StepRow.ofStep) {chain : Chain} {p : Resumption}
    (hp : resumption chain e.steps = .ok p) {d : Due} (hdue : p.due = some d) :
    ∃ t due, r.steps.getLast? = some t ∧ Until t due ∧ p.node = some t.nodeId ∧
      d = .at due.kept := by
  obtain ⟨last, hlast, -, hpaused, hnode, hread⟩ := resumption_due hp hdue
  have hlast' : r.steps.getLast? = some (StepRow.ofStep last) := by
    rw [hsteps, List.getLast?_map, hlast]
    rfl
  obtain ⟨due, huntil⟩ := h.dated _ (List.mem_of_getLast? hlast') hpaused
  have hkept : last.due? = .ok (some (.at due.kept)) :=
    due?_of_iso huntil.text (ofIso?_iso huntil.valid)
  rw [hkept] at hread
  cases hread
  exact ⟨_, due, hlast', huntil, hnode, rfl⟩

/-- The moment until which a wait pauses a run is one that a clock can show, with a known offset. -/
theorem dueIn_isValid {r : Row} (h : Standing Q r) {e : Enrollment}
    (hsteps : r.steps = e.steps.map StepRow.ofStep) {chain : Chain} {p : Resumption}
    (hp : resumption chain e.steps = .ok p) {clock : Moment} (hclock : Aware clock) {ctx : Context}
    (hnow : ctx.now = clock) (hreplay : ctx.replay = p.node.bind fun n => p.due.map (⟨n, ·⟩))
    {n : Chain.Node} {due : Moment} (hdue : DueIn ctx n due) :
    due.IsValid ∧ due.offset.isSome = true := by
  rcases hdue with hagain | ⟨-, amount, unit, -, hfresh⟩
  · rw [hreplay] at hagain
    obtain ⟨node, -, hagain⟩ := Option.bind_eq_some_iff.1 hagain
    obtain ⟨d, hd, heq⟩ := Option.map_eq_some_iff.1 hagain
    obtain ⟨t, due', -, huntil, -, rfl⟩ := replay_until h hsteps hp hd
    cases heq
    exact ⟨kept_isValid huntil.valid, by rw [kept_known]; exact huntil.known⟩
  · rw [hnow] at hfresh
    obtain ⟨hvalid, hoffset⟩ := dueAfter_isValid hclock.valid hfresh
    exact ⟨hvalid, by rw [hoffset]; exact hclock.known⟩

/-- Where a run pauses at the node of the enrollment's last step, a pause, the due time is that of
this step. -/
theorem again_until {r : Row} (h : Standing Q r) {e : Enrollment}
    (hsteps : r.steps = e.steps.map StepRow.ofStep) {chain : Chain} {p : Resumption}
    (hp : resumption chain e.steps = .ok p) {ctx : Context}
    (hreplay : ctx.replay = p.node.bind fun n => p.due.map (⟨n, ·⟩)) {last : Step}
    (hlast : e.steps.getLast? = some last) (hlastPaused : last.isPaused = true)
    {n : Chain.Node} (hid : last.nodeId = n.id) {due : Moment} (hdue : DueIn ctx n due) :
    ∃ due₀, r.steps.getLast? = some (StepRow.ofStep last) ∧ Until (StepRow.ofStep last) due₀ ∧
      due = due₀.kept := by
  have hlast' : r.steps.getLast? = some (StepRow.ofStep last) := by
    rw [hsteps, List.getLast?_map, hlast]
    rfl
  obtain ⟨due₀, huntil⟩ := h.dated (StepRow.ofStep last) (List.mem_of_getLast? hlast') hlastPaused
  refine ⟨due₀, hlast', huntil, ?_⟩
  rw [resumption_of_paused hlast huntil.status hlastPaused,
    due?_of_iso huntil.text (ofIso?_iso huntil.valid)] at hp
  cases hp
  rcases hdue with hagain | ⟨hno, -⟩
  · rw [hreplay] at hagain
    have heq : (⟨last.nodeId, .at due₀.kept⟩ : Replay) = ⟨n.id, .at due⟩ :=
      Option.some.inj hagain
    exact (Due.at.inj (Replay.mk.inj heq).2).symm
  · exact absurd hid (hno ⟨last.nodeId, .at due₀.kept⟩ hreplay)

/-- **The pause of a run is the last step of the enrollment**, be it that of the report, or the one
at which the enrollment still waits; and the due time is that of the pause. -/
theorem closes_pause {r : Row} (h : Standing Q r) {e : Enrollment}
    (hsteps : r.steps = e.steps.map StepRow.ofStep) {chain : Chain} {p : Resumption}
    (hp : resumption chain e.steps = .ok p) {clock : Moment} (hclock : Aware clock) {ctx : Context}
    (hnow : ctx.now = clock) (hreplay : ctx.replay = p.node.bind fun n => p.due.map (⟨n, ·⟩))
    {hands : Bool} {nodes : List Chain.Node} {report : Report}
    (hc : Closes Reply.Plain hands ctx nodes report report.steps)
    (hpaused : report.isPaused = true) {u : Moment} (hu : dueTime clock report.resumeAt = .ok u) :
    (∀ s ∈ report.steps, s.isPaused = true → ∃ due, Until (StepRow.ofStep s) due) ∧
      ∃ t due, (r.steps ++ (newSteps e report).map StepRow.ofStep).getLast? = some t ∧
        Until t due ∧ InUtc due.kept u := by
  generalize hall : report.steps = steps at hc
  cases hc with
  | arrived _ _ _ hno => exact absurd (hno.symm.trans hpaused) Bool.false_ne_true
  | failed _ _ _ hno => exact absurd (hno.symm.trans hpaused) Bool.false_ne_true
  | paused hbefore hs hsp hdue hstatus hyes hmem hran =>
    rename_i before s n ch c' xs
    obtain ⟨hid, due, htext, hdueIn⟩ := hran.pause hsp
    have hdueIn' : DueIn ctx n due := hdueIn
    obtain ⟨hvalid, hknown⟩ := dueIn_isValid h hsteps hp hclock hnow hreplay hdueIn'
    have huntil : Until (StepRow.ofStep s) due := ⟨hs, hsp, htext, hvalid, hknown⟩
    have hknown' : due.kept.offset.isSome = true := by
      rw [kept_known]
      exact hknown
    rw [due?_of_iso htext (ofIso?_iso hvalid)] at hdue
    rw [← Except.ok.inj hdue, dueTime_known hknown'] at hu
    have hutc : InUtc due.kept u := ⟨kept_isValid hvalid, hknown', hu⟩
    refine ⟨?_, ?_⟩
    · intro s' hs' hp'
      rcases List.mem_append.1 hs' with hs' | hs'
      · exact absurd ((hbefore s' hs').2.symm.trans hp') Bool.false_ne_true
      · rw [List.mem_singleton.1 hs']
        exact ⟨due, huntil⟩
    · rcases newSteps_cases e report with hnew | ⟨hnew, -, s', last, hone, hlast, hyes', hsame⟩
      · refine ⟨StepRow.ofStep s, due, ?_, huntil, hutc⟩
        rw [hnew, hall, List.map_append, ← List.append_assoc]
        exact List.getLast?_concat
      · -- the enrollment still waits: the run came back to the wait of the last step
        have hss : [] ++ [s'] = before ++ [s] := hone.symm.trans hall
        obtain ⟨-, rfl⟩ := List.append_singleton_inj.1 hss
        obtain ⟨due₀, hlast', huntil₀, rfl⟩ :=
          again_until h hsteps hp hreplay hlast hyes' (hsame.trans hid) hdueIn'
        rw [kept_kept] at hutc
        refine ⟨StepRow.ofStep last, due₀, ?_, huntil₀, hutc⟩
        rw [hnew, List.map_nil, List.append_nil]
        exact hlast'

/-- Recording the verdict on a run with its new steps keeps the row standing. -/
theorem Found.standing {i : Invocation σ} (hclock : Aware i.before.clock)
    (hcompleted : (∀ m, Q m → Decode.WholeMinutes m) → Readable i.before.clock)
    (hnews : ∀ lead ∈ i.news, lead.IsWhole) {r : Row} {e : Enrollment} {w : Workflow.Record}
    {chain : Chain} {p : Resumption} {report : Report} {h : Bool} {calls : List Exchange}
    (hf : Found i.before i.id i.news r e) (hr : Standing Q r)
    (hready : Ready i.before i.id e w chain p)
    (hcomes : (i.plan c h e w chain p).ComesTo Reply.Plain (.ok report) calls)
    {status : Status} {completedAt resumeAt : Option Moment}
    (hv : Verdict i.before.clock report status completedAt resumeAt) :
    Standing Q ((recorded (newSteps e report) status completedAt resumeAt ∘
      refreshed i.news e) r) := by
  obtain ⟨hlead, hsteps⟩ := hf.legible hr.legible hnews
  have hrefreshed := hr.refreshed hlead i.news
  have hnow : i.before.clock.assumeUtc = i.before.clock := assumeUtc_of_known hclock.known
  rcases run_closes hcomes with ⟨hfailed, hno, hnil⟩ | ⟨nodes, -, -, -, hcloses⟩
  · have hempty : newSteps e report = [] := by
      rw [newSteps_of_not_paused e hno, hnil]
    cases hv with
    | failed _ =>
      rw [hempty]
      exact hrefreshed.ended (by decide) hcompleted
        (fun _ hs => absurd hs List.not_mem_nil) (fun _ hs => absurd hs List.not_mem_nil)
    | paused hs => exact absurd (hs.symm.trans hfailed) (by decide)
    | succeeded hs => exact absurd (hs.symm.trans hfailed) (by decide)
  have hreadable := hclock.newSteps hcomes
  have hended : ∀ {status : Status}, status ≠ .inProgress → report.isPaused = false →
      Standing Q ((recorded (newSteps e report) status (some i.before.clock) none ∘
        refreshed i.news e) r) :=
    fun hstatus hno => hrefreshed.ended hstatus hcompleted hreadable
      fun s hs => hcloses.unpaused hno s (newSteps_subset e report hs)
  cases hv with
  | failed hs => exact hended (by decide) (hcloses.last_failed hs).1
  | succeeded _ hno => exact hended (by decide) hno
  | paused hs hpaused hdue =>
    obtain ⟨hdated, t, due, hlast, huntil, hutc⟩ :=
      closes_pause hr hsteps hready.resumes hclock hnow rfl hcloses hpaused hdue
    obtain ⟨htimes, hdates⟩ := hr.append_steps fun s hs =>
      ⟨hreadable s hs, hdated s (newSteps_subset e report hs)⟩
    rw [← refreshed_steps i.news e r] at htimes hdates hlast
    exact hrefreshed.paused htimes hdates hlast huntil hutc

/-- A run leaves the row that it touches standing. -/
theorem Touched.standing {i : Invocation σ} (hclock : Aware i.before.clock)
    (hcompleted : (∀ m, Q m → Decode.WholeMinutes m) → Readable i.before.clock)
    (hnews : ∀ lead ∈ i.news, lead.IsWhole) {r : Row} {e : Enrollment}
    (hf : Found i.before i.id i.news r e) (hr : Standing Q r) {r' : Row}
    (ht : Touched Reply.Plain c k i r e r') : Standing Q r' := by
  have hrefreshed := hr.refreshed (hf.legible hr.legible hnews).1 i.news
  cases ht with
  | told => exact hrefreshed
  | flawed =>
    exact hrefreshed.ended (by decide) hcompleted (fun _ hs => absurd hs List.not_mem_nil)
      (fun _ hs => absurd hs List.not_mem_nil)
  | complete =>
    refine hrefreshed.ended (by decide) ?_ (fun _ hs => absurd hs List.not_mem_nil)
      (fun _ hs => absurd hs List.not_mem_nil)
    intro hminutes
    obtain ⟨e', hread, rfl⟩ := hf.read
    rw [informed_completedAt]
    cases hat : e'.completedAt with
    | none => exact hcompleted hminutes
    | some at_ => exact hr.read_completedAt hread hminutes at_ hat
  | recorded hready hcomes hv => exact hf.standing hclock hcompleted hnews hr hready hcomes hv

/-- **A run of an enrollment keeps all rows standing.** -/
theorem Invocation.standing (hk : k.Reply Reply.Plain) (hQ : ∀ m, Q m → Aware m)
    (i : Invocation σ) (hnews : ∀ lead ∈ i.news, lead.IsWhole) (h : AllStanding Q i.before) :
    AllStanding Q (i.after c k) := by
  have hclock := hQ _ h.clock
  refine ⟨by rw [i.clock]; exact h.clock, by rw [i.ids]; exact h.ids, ?_⟩
  refine i.forall_rows hk h.ids (fun r e r' hf hr ht => ?_) h.rows
  exact ht.standing hclock (fun hminutes => ⟨hclock.valid, hminutes _ h.clock⟩) hnews hf hr

/-- A new enrollment stands. -/
theorem Registered.standing (hQ : ∀ m, Q m → Aware m) {s s' : State σ} {w : Workflow.Record}
    {lead : Lead} {source : String} {overrides : Overrides}
    (hr : Registered s (newcomer s w lead source overrides) s') (hlead : lead.IsWhole)
    (hoverrides : overrides.IsWhole) (h : AllStanding Q s) : AllStanding Q s' := by
  have hclock := hQ _ h.clock
  refine ⟨by rw [hr.clock]; exact h.clock, hr.ids h.ids, ?_⟩
  · rw [hr.rows]
    intro r hmem
    rcases List.mem_append.1 hmem with hmem | hmem
    · exact h.rows r hmem
    · rw [List.mem_singleton.1 hmem]
      exact ⟨⟨_, hlead.normalized, rfl⟩, ⟨_, hoverrides, rfl⟩, ⟨_, hclock.stamp, rfl⟩,
        fun _ ht => absurd ht List.not_mem_nil, fun _ _ ht => (by cases ht),
        ⟨fun _ => rfl, fun _ => rfl⟩, fun _ hne => absurd rfl hne,
        fun _ ht => absurd ht List.not_mem_nil, fun _ ht => (by cases ht)⟩

/-- **Every command keeps all rows standing.** -/
theorem Command.standing (hk : k.Reply Reply.Plain) (hQ : ∀ m, Q m → Aware m) (cmd : Command)
    (hcmd : cmd.Proper Q) {s : State σ} (h : AllStanding Q s) :
    AllStanding Q (cmd.perform c k s) := by
  refine cmd.keeps ?_ ?_ ?_ ?_ ?_ h
  · intro s₁ s₂ hrows hclock h
    exact ⟨by rw [hclock]; exact h.clock, by rw [hrows]; exact h.ids, by rw [hrows]; exact h.rows⟩
  · intro s₁ s₂ workflowId source lead overrides w heq hr h
    rw [heq] at hcmd
    exact hr.standing hQ hcmd.1 hcmd.2 h
  · intro i _ hnews h
    refine i.standing hk hQ ?_ h
    intro lead hlead
    obtain ⟨id, ignore, heq⟩ := hnews lead hlead
    rw [heq] at hcmd
    exact hcmd lead rfl
  · intro s₁ s₂ id hrows hclock h
    refine ⟨by rw [hclock]; exact h.clock, ?_, ?_⟩
    · rw [hrows]
      exact h.ids.sublist (List.filter_sublist.map _)
    · rw [hrows]
      exact fun r hr => h.rows r (List.mem_of_mem_filter hr)
  · intro s₁ now heq h
    rw [heq] at hcmd
    exact ⟨hcmd, h.ids, h.rows⟩

theorem carry_standing (hk : k.Reply Reply.Plain) (hQ : ∀ m, Q m → Aware m) :
    ∀ (cmds : List Command), (∀ cmd ∈ cmds, cmd.Proper Q) → ∀ {s : State σ}, AllStanding Q s →
      AllStanding Q (carry c k cmds s)
  | [], _, _, h => h
  | cmd :: cmds, hcmds, _, h =>
    carry_standing hk hQ cmds (fun cmd hmem => hcmds cmd (List.mem_cons_of_mem _ hmem))
      (cmd.standing hk hQ (hcmds cmd List.mem_cons_self) h)

end

end Service
end Cadence
