/-
# A run outside the send window

The send window only concerns nodes that send something. Outside of it a run asks nobody for
anything; each of these nodes has a step that says it was skipped, and the run goes on behind it.
Triggers and waits have the steps that they have where there is no window at all (`run_shut`).

Key definitions: `Context.unbound`, `Shut`.
Key theorems: `Ran.shut`, `run_shut`.
-/
import Cadence.Proofs.Run.Sent
import Cadence.Proofs.Run.Waits

namespace Cadence

/-- A context without a send window. -/
def Context.unbound (c : Context) : Context := { c with sendWindow := none }

/-- What the step of a node is outside the send window: that of a node that sends something is a
success that says it was skipped, and that of any other node is the one it has without a window. -/
structure Shut (h : Bool) (c : Context) (n : Chain.Node) (s : Step) : Prop where
  action : n.isAction = true → s = skippedStep c n ∧ s.status = .success ∧ s.isSkipped = true
  other : n.isAction = false → runNode h c.unbound n = .done (.ok (s, c.unbound))

variable {P : Reply → Prop} {h : Bool} {c : Context} {n : Chain.Node}

theorem runNode_trigger (hc : n.config = .trigger) :
    runNode h c n = .done (.ok (c.step n .success [], c)) := by
  unfold runNode
  rw [hc]

/-- A wait comes to its step, whatever the send window says. -/
theorem runNode_wait (hf : n.Fits) {amount : Int} {unit : WaitUnit}
    (hc : n.config = .wait amount unit) :
    runNode h c n = .done ((stepOfWait c n amount unit).map (·, c)) := by
  have hm : mayRun c n = .ok true := mayRun_of_not_action hf (Chain.Node.not_action_of_wait hc)
  unfold runNode
  simp only [hc, hm]

/-- **A step outside the send window** is a skipped one, or the one there is without a window. -/
theorem Ran.shut (hf : n.Fits) (hg : gate c = .ok false) {s : Step} (hr : Ran P h c n s) :
    Shut h c n s := by
  obtain ⟨last, c', xs, hran⟩ := hr
  rcases n.cases_config with hc | ⟨amount, unit, hc⟩ | ha
  · have ha := Chain.Node.not_action_of_trigger hc
    obtain ⟨hres, -⟩ := hran.trigger_ok hc
    cases hres
    exact ⟨fun hyes => absurd (ha.symm.trans hyes) Bool.false_ne_true,
      fun _ => runNode_trigger hc⟩
  · have ha := Chain.Node.not_action_of_wait hc
    obtain ⟨hres, -⟩ := hran.of_wait (mayRun_of_not_action hf ha) hc
    obtain ⟨s', hs, heq⟩ := map_eq_ok.1 hres.symm
    cases heq
    have hsame : stepOfWait c.unbound n amount unit = .ok s := hs
    refine ⟨fun hyes => absurd (ha.symm.trans hyes) Bool.false_ne_true, fun _ => ?_⟩
    rw [runNode_wait hf hc, hsame]
    rfl
  · have hm : mayRun { c with lastChannel := last } n = .ok false := (mayRun_eq_gate hf ha).trans hg
    rcases hran.of_action ha with ⟨f, hm', -⟩ | ⟨-, hres⟩ | hm'
    · cases hm.symm.trans hm'
    · cases hres
      exact ⟨fun _ => ⟨rfl, rfl, rfl⟩, fun hno => absurd (ha.symm.trans hno) (by decide)⟩
    · cases hm.symm.trans hm'

/-- A step outside the send window is a success. -/
theorem Shut.status (hf : n.Fits) {s : Step} (hs : Shut h c n s) : s.status = .success := by
  rcases n.cases_config with hc | ⟨amount, unit, hc⟩ | ha
  · have hstep := hs.other (Chain.Node.not_action_of_trigger hc)
    rw [runNode_trigger hc] at hstep
    cases hstep
    rfl
  · have hstep := hs.other (Chain.Node.not_action_of_wait hc)
    rw [runNode_wait hf hc, Plan.done.injEq] at hstep
    obtain ⟨s', hs', heq⟩ := map_eq_ok.1 hstep
    cases heq
    obtain ⟨output, rfl⟩ := stepOfWait_step hs'
    rfl
  · exact (hs.action ha).2.1

/-- **A run outside the send window** asks for nothing. Its steps are those of the nodes ahead, one
by one; it fails only if there is no node to start at, and then it has no steps. -/
theorem run_shut {chain : Chain} (hs : chain.Sound) {options : RunOptions}
    (hg : gate (options.context options.sendWindow) = .ok false) {res : Except Fault Report}
    {xs : List Exchange} (hr : (Runnable.run h (.chain chain) options).ComesTo P res xs) :
    xs = [] ∧ ∀ report : Report, res = .ok report → (report.status = .failed → report.steps = []) ∧
      ∀ (m : Nat) (s : Step), report.steps[m]? = some s → ∃ n,
        (chain.ahead options.start)[m]? = some n ∧
          Shut h (options.context options.sendWindow) n s := by
  constructor
  · have hrun : (chain.runFrom h options.id (options.context options.sendWindow)
        options.start).ComesTo P res xs := hr
    rcases runFrom_cases chain h options.id (options.context options.sendWindow) options.start with
      ⟨heq, -⟩ | ⟨-, complaint, heq⟩ <;> rw [heq] at hrun
    · have hfit : ∀ n ∈ chain.ahead options.start, n.Fits :=
        fun n hn => hs.fits n (mem_of_ahead hn)
      exact walk_silent hfit (by rw [hg]; decide) hrun
    · exact (Plan.comesTo_done.1 hrun).2
  · rintro report rfl
    have hsteps : ∀ (m : Nat) (s : Step), report.steps[m]? = some s → ∃ n,
        (chain.ahead options.start)[m]? = some n ∧
          Shut h (options.context options.sendWindow) n s := by
      intro m s hstep
      obtain ⟨n, hn, hran⟩ := run_ran hr hstep
      exact ⟨n, hn, hran.shut (hs.fits n (mem_of_ahead (List.mem_of_getElem? hn))) hg⟩
    refine ⟨fun hfailed => ?_, hsteps⟩
    rcases run_closes hr with ⟨-, -, hnone⟩ | ⟨nodes, -, -, -, hcloses⟩
    · exact hnone
    · obtain ⟨-, s, hlast, hfailed'⟩ := hcloses.last_failed hfailed
      rw [List.getLast?_eq_getElem?] at hlast
      obtain ⟨n, hn, hshut⟩ := hsteps _ s hlast
      have hsuccess := hshut.status (hs.fits n (mem_of_ahead (List.mem_of_getElem? hn)))
      exact absurd (hfailed'.symm.trans hsuccess) (by decide)

end Cadence
