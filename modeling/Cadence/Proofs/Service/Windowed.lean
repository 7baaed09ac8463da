/-
# Messages go out inside the send window

An enrollment that is no trial is run with the send window of the workflow as it is stored when the
run begins, whoever runs it: its first run, a timer, a poll, or somebody who advances it without
saying that the window is to be ignored. Calls are then made only if the clock shows a time inside
this window; outside of it nobody is called, and triggers and waits have the steps that they have
without a window (`Invocation.windowed`). Workflows may be edited between any two runs
(`carried_windowed`).

Whether a time lies inside a window is what `Workflow.SendWindow.allows` says, with the service's own
time zone for a window that names none.

Key definitions: `Invocation.allowed`, `Invocation.Windowed`.
Key theorems: `Invocation.windowed`, `carried_windowed`.
-/
import Cadence.Proofs.Run.Asked
import Cadence.Proofs.Run.Shut
import Cadence.Proofs.Service.Command
import Cadence.Proofs.Service.Shape

namespace Cadence
namespace Service

open Time

variable {σ : Type} {c : Config} {k : Collaborators σ}

/-- Whether the clock of a run shows a time inside the send window of a workflow. -/
def Invocation.allowed (c : Config) (i : Invocation σ) (w : Workflow.Record) : Except Fault Bool :=
  Workflow.SendWindow.allows c.defaultTimezone w.definition.settings.sendWindow
    i.before.clock.assumeUtc

/-- A run keeps to the send window of the workflow that its enrollment has in the store. -/
structure Invocation.Windowed (c : Config) (k : Collaborators σ) (i : Invocation σ)
    (e : Enrollment) : Prop where
  inside : i.calls c k ≠ [] → ∃ w,
    i.before.files.load i.before.clock.universal e.workflowId = .ok (some w) ∧
      i.allowed c w = .ok true
  outside : ∀ w, i.before.files.load i.before.clock.universal e.workflowId = .ok (some w) →
    i.allowed c w = .ok false → i.calls c k = [] ∧
      ∀ chain p report, Ready i.before i.id e w chain p →
        ((i.plan c k.handsOver e w chain p).run k i.before.world).1 = .ok report →
        (report.status = .failed → report.steps = []) ∧
          ∀ (m : Nat) (s : Step), report.steps[m]? = some s → ∃ n,
            (chain.ahead p.node)[m]? = some n ∧
              Shut k.handsOver ((runOptions c e w p i.ignore i.before.clock).context
                w.definition.settings.sendWindow) n s

section
variable {i : Invocation σ} {e : Enrollment} {w : Workflow.Record} {p : Resumption}

/-- A run that does not ignore the send window goes by what the window allows. -/
theorem gate_runOptions (hignore : i.ignore.getD e.isTrial = false) :
    gate ((runOptions c e w p i.ignore i.before.clock).context
      w.definition.settings.sendWindow) = i.allowed c w := by
  have hoff : ((runOptions c e w p i.ignore i.before.clock).context
      w.definition.settings.sendWindow).ignoreSendWindow = false := hignore
  unfold gate
  rw [hoff]
  rfl

/-- A run makes calls only if its enrollment is ready and what it asks for is allowed. -/
theorem Invocation.allowed_of_calls (i : Invocation σ) (hcalls : i.calls c k ≠ []) :
    ∃ r e w chain p, Found i.before i.id i.news r e ∧ Ready i.before i.id e w chain p ∧
      gate ((runOptions c e w p i.ignore i.before.clock).context
        w.definition.settings.sendWindow) = .ok true := by
  -- where the enrollment is ready, a call stems from a node that may run
  have hready : ∀ {r e w chain p}, Found i.before i.id i.news r e →
      Ready i.before i.id e w chain p → ∃ r e w chain p, Found i.before i.id i.news r e ∧
        Ready i.before i.id e w chain p ∧
          gate ((runOptions c e w p i.ignore i.before.clock).context
            w.definition.settings.sendWindow) = .ok true := by
    intro r e w chain p hfound hready
    refine ⟨r, e, w, chain, p, hfound, hready, ?_⟩
    have hcomes := Plan.comesTo_run k.reply_any (i.plan c k.handsOver e w chain p) i.before.world
    rw [← calls_ready hfound hready] at hcomes
    obtain ⟨x, hx⟩ := List.exists_mem_of_ne_nil _ hcalls
    obtain ⟨line, window, hline, n, hn, ha, hmay, -⟩ := run_asked hcomes x hx
    cases hline
    have hsound := Workflow.linearize_sound hready.line
    rw [← hmay, mayRun_eq_gate (hsound.fits n hn) ha]
    rfl
  have hended := advance_ended c k.reply_any i
  generalize i.result c k = res at hended
  generalize i.after c k = s' at hended
  cases hended with
  | unread _ hnone => exact absurd hnone hcalls
  | unable _ hnone => exact absurd hnone hcalls
  | flawed _ hnone => exact absurd hnone hcalls
  | complete _ hnone => exact absurd hnone hcalls
  | faulted hf hr => exact hready hf hr
  | lost hf hr => exact hready hf hr
  | recorded hf hr => exact hready hf hr

/-- **A run keeps to the send window**, unless it is a trial or told to ignore it. -/
theorem Invocation.windowed (i : Invocation σ) {r : Enrollment.Row}
    (hfound : Found i.before i.id i.news r e) (hignore : i.ignore.getD e.isTrial = false) :
    i.Windowed c k e := by
  have hinside : i.calls c k ≠ [] → ∃ w,
      i.before.files.load i.before.clock.universal e.workflowId = .ok (some w) ∧
        i.allowed c w = .ok true := by
    intro hcalls
    obtain ⟨r', e', w, chain, p, hfound', hready, hgate⟩ := i.allowed_of_calls hcalls
    obtain ⟨-, rfl⟩ := hfound.unique hfound'
    rw [gate_runOptions hignore] at hgate
    exact ⟨w, hready.workflow, hgate⟩
  refine ⟨hinside, ?_⟩
  intro w hload hshut
  constructor
  · by_contra hcalls
    obtain ⟨w', hload', hopen⟩ := hinside hcalls
    rw [hload] at hload'
    cases hload'
    cases hshut.symm.trans hopen
  · intro chain p report hready hreport
    have hcomes := Plan.comesTo_run k.reply_any (i.plan c k.handsOver e w chain p) i.before.world
    exact (run_shut (Workflow.linearize_sound hready.line)
      ((gate_runOptions hignore).trans hshut) hcomes).2 report hreport

end

/-- **Nothing is sent outside the send window.** Whatever is done with a service, workflows being
edited at any time: each run of an enrollment that is no trial keeps to the send window of the
workflow that it loads, if nobody advances this enrollment saying that the window is to be ignored.
-/
theorem carried_windowed {cmds : List Command} {s : State σ} :
    ∀ i ∈ carried c k cmds s, (∀ news, .operate (.advance i.id (some true) news) ∉ cmds) →
      ∀ r e, Found i.before i.id i.news r e → e.source ≠ Enrollment.trialSource →
        i.Windowed c k e := by
  intro i hi hcmds r e hfound hsource
  have hlive : e.isTrial = false := decide_eq_false hsource
  refine i.windowed hfound ?_
  rcases carried_ignore i hi with hnone | hsaid
  · rw [hnone]
    exact hlive
  · cases hignore : i.ignore with
    | none => exact hlive
    | some b =>
      cases b with
      | false => rfl
      | true =>
        rw [hignore] at hsaid
        exact absurd hsaid (hcmds i.news)

/-! ### A lead that is enrolled at night -/

namespace Sample

/-- The workflow with office hours in Lagos, where it is still night. -/
def nightly : State Unit :=
  let hours : Workflow.SendWindow := ⟨true, "09:00", "17:00", [], some "Africa/Lagos"⟩
  { service with files := [⟨.home, "flow-v1.json", .obj [("id", .str "flow"), ("name", .str "Flow"),
    ("definition", { definition with settings := ⟨some hours⟩ }.toJson)]⟩] }

/-- A lead is enrolled, and the enrollment is no trial. -/
def arrival : List Command := [.operate (.enroll "flow" lead "live" .none)]

/-- The enrollment of a run and its workflow, if neither is missing. -/
def loaded (i : Invocation Unit) : Option (Enrollment × Workflow.Record) :=
  match i.before.rows.get i.id, i.before.files.load i.before.clock.universal "flow" with
  | .ok (some e), .ok (some w) => some (e, w)
  | _, _ => none

end Sample

/-- At night the first run of the sample writes no mail. -/
theorem carried_windowed_sample :
    (carried Sample.config Sample.collaborators Sample.arrival Sample.nightly).length = 1 ∧
      ∀ i ∈ carried Sample.config Sample.collaborators Sample.arrival Sample.nightly,
        i.calls Sample.config Sample.collaborators = [] := by
  have hloaded : ∀ i ∈ carried Sample.config Sample.collaborators Sample.arrival Sample.nightly,
      i.news = none ∧ ∃ a ∈ Sample.loaded i, a.1.source = "live" ∧ a.1.workflowId = "flow" ∧
        (i.allowed Sample.config a.2).toOption = some false := by
    decide +kernel
  refine ⟨by decide +kernel, ?_⟩
  intro i hi
  obtain ⟨hnews, ⟨e, w⟩, ha, hsource, hworkflow, hshut⟩ := hloaded i hi
  unfold Sample.loaded at ha
  split at ha
  · rename_i e' w' hget hload
    cases ha
    obtain ⟨r, hrow, hread⟩ := get_eq_ok hget
    have hfound : Found i.before i.id i.news r e := ⟨hrow, e, hread, by rw [hnews]; rfl⟩
    have hlive : e.source ≠ Enrollment.trialSource := by
      rw [hsource]
      decide
    have hquiet : ∀ news, .operate (.advance i.id (some true) news) ∉ Sample.arrival := by
      intro news hsaid
      cases List.mem_singleton.1 hsaid
    have hwindowed := carried_windowed i hi hquiet r e hfound hlive
    rw [← hworkflow] at hload
    refine (hwindowed.outside w hload ?_).1
    cases hallowed : i.allowed Sample.config w with
    | error f =>
      rw [hallowed] at hshut
      cases hshut
    | ok b =>
      rw [hallowed] at hshut
      exact congrArg Except.ok (Option.some.inj hshut)
  · cases ha

end Service
end Cadence
