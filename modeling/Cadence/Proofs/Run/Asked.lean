/-
# What a run asks for

A run asks for nothing that none of its nodes asks for. Each delivery is the order of a node that
sends something, in the context of the run but for the channel of the last delivery, and at a time
at which the send window lets the node run (`run_asked`). The replies do not matter to this, and
neither does the node at which the run starts.

Key definitions: `Asked`.
Key theorems: `walk_asked`, `run_asked`.
-/
import Cadence.Proofs.Run.Journey
import Cadence.Proofs.Run.Resume

namespace Cadence

/-- One of the nodes that send something asks for a delivery at a time at which it may run. -/
def Asked (h : Bool) (c : Context) (nodes : List Chain.Node) (d : Delivery) : Prop :=
  ∃ n ∈ nodes, n.isAction = true ∧ mayRun c n = .ok true ∧
    ∃ last o, orderOf (c.withLast last) h n = .ok o ∧ o.delivery = d

variable {P : Reply → Prop} {h : Bool} {c : Context} {n : Chain.Node} {nodes : List Chain.Node}

theorem Asked.mono {nodes' : List Chain.Node} {d : Delivery} (hsub : ∀ n ∈ nodes, n ∈ nodes')
    (ha : Asked h c nodes d) : Asked h c nodes' d := by
  obtain ⟨n, hn, ha⟩ := ha
  exact ⟨n, hsub n hn, ha⟩

/-- Neither the window nor the other members of a context change with the last delivery. -/
theorem Asked.of_withLast {last : Option String} {d : Delivery}
    (ha : Asked h (c.withLast last) nodes d) : Asked h c nodes d := by
  obtain ⟨n, hn, haction, hmay, last', o, horder, hd⟩ := ha
  exact ⟨n, hn, haction, hmay, last', o, horder, hd⟩

/-- What a node's run asks for is the node's own order. -/
theorem NodeRan.asked {res : Except Fault (Step × Context)} {xs : List Exchange}
    (hr : NodeRan P h c n res xs) : ∀ x ∈ xs, Asked h c [n] x.delivery := by
  cases hr with
  | answered ha hm ho ht hp =>
    rename_i o r
    intro x hx
    rw [List.mem_singleton.1 hx]
    exact ⟨n, List.mem_singleton.2 rfl, ha, hm, c.lastChannel, o, ho, rfl⟩
  | trigger | blocked | skipped | waited | refused | late =>
    exact fun x hx => absurd hx List.not_mem_nil

/-- **What a run over nodes asks for is the order of one of them.** By recursion on the nodes: what
the first one leaves behind differs from its context in the last delivery only. -/
theorem walk_asked : ∀ {nodes : List Chain.Node} {c : Context} {r : Report}
    {res : Except Fault Report} {xs : List Exchange}, (runNodes h c r nodes).ComesTo P res xs →
    ∀ x ∈ xs, Asked h c nodes x.delivery
  | [], c, r, res, xs, hr => by
    obtain ⟨-, rfl⟩ := comesTo_runNodes_nil hr
    exact fun x hx => absurd hx List.not_mem_nil
  | n :: rest, c, r, res, xs, hr => by
    have hfirst : ∀ m ∈ [n], m ∈ n :: rest :=
      fun m hm => List.mem_cons.2 (Or.inl (List.mem_singleton.1 hm))
    rcases comesTo_runNodes_cons hr with ⟨f, hran, -⟩ | ⟨s, c', ys, zs, hran, rfl, hgo⟩
    · exact fun x hx => (hran.asked x hx).mono hfirst
    intro x hx
    rcases List.mem_append.1 hx with hx | hx
    · exact (hran.asked x hx).mono hfirst
    cases hgo with
    | passed hs hp hrest =>
      obtain ⟨last, rfl⟩ := hran.context
      have hbehind : Asked h (c.withLast last) rest x.delivery := walk_asked hrest x hx
      exact hbehind.of_withLast.mono fun m hm => List.mem_cons_of_mem _ hm
    | failed | paused | faulted => exact absurd hx List.not_mem_nil

/-- What a run of a chain asks for, wherever it starts, is the order of one of its nodes. -/
theorem runFrom_asked {chain : Chain} {id : String} {start : Option String}
    {res : Except Fault Report} {xs : List Exchange}
    (hr : (chain.runFrom h id c start).ComesTo P res xs) :
    ∀ x ∈ xs, Asked h c chain.nodes x.delivery := by
  rcases runFrom_cases chain h id c start with ⟨hrun, -⟩ | ⟨-, complaint, hrun⟩
  · rw [hrun] at hr
    exact fun x hx => (walk_asked hr x hx).mono fun m => mem_of_ahead
  · rw [hrun] at hr
    obtain ⟨-, rfl⟩ := Plan.comesTo_done.1 hr
    exact fun x hx => absurd hx List.not_mem_nil

/-- **What the run of a workflow asks for is the order of a node of the workflow's line**, in the
context that the options of the run and the workflow's send window make. -/
theorem run_asked {w : Runnable} {o : RunOptions} {res : Except Fault Report} {xs : List Exchange}
    (hr : (w.run h o).ComesTo P res xs) : ∀ x ∈ xs, ∃ line window,
      w.resolve o.sendWindow = .ok (line, window) ∧
        Asked h (o.context window) line.nodes x.delivery := by
  unfold Runnable.run at hr
  split at hr
  · obtain ⟨-, rfl⟩ := Plan.comesTo_done.1 hr
    exact fun x hx => absurd hx List.not_mem_nil
  · rename_i line window hline
    exact fun x hx => ⟨line, window, hline, runFrom_asked hr x hx⟩

end Cadence
