/-
# The shape of an enrollment's history

The steps of an enrollment are those of several runs, one behind the other. Together they are a
`History` of the chain: a block of steps for each node of a prefix of the chain, in order, of which
only the last may be unfinished. A block is finished by a success; before it there are failures
where the node sends something, and a pause where it waits.

A run starts at the node after the finished blocks (`resumption_history`), and what it adds makes a
history again (`walk_history`), unless all that it has to say is that the enrollment still waits.
What a run does behind a step is listed once, in `GoesOn`; by the kind of the step it ends or runs
the nodes behind.

Key definitions: `Finished`, `Unfinished`, `History`, `GoesOn`, `Awaits`, `Still`.
Key theorems: `comesTo_runNodes_cons`, `walk_history`.
-/
import Cadence.Proofs.Run.Ran

namespace Cadence

open Time

/-! ### Blocks and histories -/

/-- The steps of a node that the enrollment has passed. -/
inductive Finished (n : Chain.Node) : List Entry → Prop
  | trigger {e : Entry} : n.config = .trigger → e.Succeeded n → Finished n [e]
  | action {fs : List Entry} {e : Entry} : n.isAction = true → (∀ f ∈ fs, f.Failed n) →
      e.Succeeded n → Finished n (fs ++ [e])
  | wait {amount : Int} {unit : WaitUnit} {p e : Entry} : n.config = .wait amount unit →
      p.Paused n → e.Resumed n → Finished n [p, e]

/-- The steps of a node at which the enrollment stands: it failed at least once, or it waits. -/
inductive Unfinished (n : Chain.Node) : List Entry → Prop
  | failed {fs : List Entry} : n.isAction = true → fs ≠ [] → (∀ f ∈ fs, f.Failed n) →
      Unfinished n fs
  | paused {amount : Int} {unit : WaitUnit} {p : Entry} : n.config = .wait amount unit →
      p.Paused n → Unfinished n [p]

/-- The steps of an enrollment on its way along nodes: a finished block for each node of a prefix,
and perhaps an unfinished one for the next. -/
def History (nodes : List Chain.Node) (entries : List Entry) : Prop :=
  ∃ done rest blocks now, nodes = done ++ rest ∧ List.Forall₂ Finished done blocks ∧
    (now = [] ∨ ∃ n rest', rest = n :: rest' ∧ Unfinished n now) ∧ entries = blocks.flatten ++ now

theorem History.nil (nodes : List Chain.Node) : History nodes [] :=
  ⟨[], nodes, [], [], rfl, .nil, Or.inl rfl, rfl⟩

theorem History.unfinished {n : Chain.Node} {now : List Entry} (h : Unfinished n now)
    (rest : List Chain.Node) : History (n :: rest) now :=
  ⟨[], n :: rest, [], now, rfl, .nil, Or.inr ⟨n, rest, rfl, h⟩, rfl⟩

theorem History.cons {n : Chain.Node} {block entries : List Entry} {rest : List Chain.Node}
    (h : Finished n block) (hr : History rest entries) :
    History (n :: rest) (block ++ entries) := by
  obtain ⟨done, rest', blocks, now, rfl, hb, hnow, rfl⟩ := hr
  refine ⟨n :: done, rest', block :: blocks, now, rfl, .cons h hb, hnow, ?_⟩
  rw [List.flatten_cons, List.append_assoc]

/-- A history of the nodes that are left goes on behind the blocks of those before. -/
theorem History.append {done rest : List Chain.Node} {blocks : List (List Entry)}
    {entries : List Entry} (hb : List.Forall₂ Finished done blocks) (hr : History rest entries) :
    History (done ++ rest) (blocks.flatten ++ entries) := by
  induction hb with
  | nil => exact hr
  | cons hn _ ih =>
    rw [List.cons_append, List.flatten_cons, List.append_assoc]
    exact .cons hn ih

/-! ### One step further -/

/-- Nothing of a node, or the steps of one that is unfinished. -/
def Pending (n : Chain.Node) (now : List Entry) : Prop := now = [] ∨ Unfinished n now

theorem Pending.failures {n : Chain.Node} {now : List Entry} (hn : Pending n now)
    (ha : n.isAction = true) : ∀ f ∈ now, f.Failed n := by
  rcases hn with rfl | hn
  · exact fun _ h => absurd h List.not_mem_nil
  · cases hn with
    | failed _ _ hf => exact hf
    | paused hc =>
      rw [Chain.Node.not_action_of_wait hc] at ha
      cases ha

theorem Pending.eq_nil_of_trigger {n : Chain.Node} {now : List Entry} (hn : Pending n now)
    (hc : n.config = .trigger) : now = [] := by
  rcases hn with rfl | hn
  · rfl
  · cases hn with
    | failed ha =>
      rw [Chain.Node.not_action_of_trigger hc] at ha
      cases ha
    | paused hw =>
      rw [hc] at hw
      cases hw

/-- A further failure leaves the block of an action unfinished. -/
theorem Pending.fail {n : Chain.Node} {now : List Entry} {e : Entry} (hn : Pending n now)
    (ha : n.isAction = true) (he : e.Failed n) : Unfinished n (now ++ [e]) := by
  refine .failed ha (List.append_ne_nil_of_right_ne_nil _ (List.cons_ne_nil _ _)) ?_
  intro f hf
  rcases List.mem_append.1 hf with hf | hf
  · exact hn.failures ha f hf
  · rw [List.mem_singleton.1 hf]
    exact he

/-- A success finishes the block of a trigger or an action. -/
theorem Pending.pass {n : Chain.Node} {now : List Entry} {e : Entry} (hn : Pending n now)
    (hc : n.config = .trigger ∨ n.isAction = true) (he : e.Succeeded n) :
    Finished n (now ++ [e]) := by
  rcases hc with hc | ha
  · rw [hn.eq_nil_of_trigger hc]
    exact .trigger hc he
  · exact .action ha (hn.failures ha) he

/-- A pause where nothing was pending, or the same pause again. -/
theorem Pending.pause {n : Chain.Node} {now : List Entry} {e : Entry} {amount : Int}
    {unit : WaitUnit} (hn : Pending n now) (hc : n.config = .wait amount unit)
    (he : e.Paused n) :
    Unfinished n (now ++ [e]) ∨ ∃ p, now = [p] ∧ p.Paused n := by
  rcases hn with rfl | hn
  · exact Or.inl (.paused hc he)
  · cases hn with
    | failed ha =>
      rw [Chain.Node.not_action_of_wait hc] at ha
      cases ha
    | paused _ hp => exact Or.inr ⟨_, rfl, hp⟩

/-! ### Runs -/

variable {P : Reply → Prop} {h : Bool}

/-- A report with a further step. -/
def Report.add (r : Report) (s : Step) : Report := { r with steps := r.steps ++ [s] }

/-- How a run goes on behind the step of a node: it ends if the step failed or paused it, and the
nodes behind are run if the step passed. Only a pause whose due time cannot be read is a fault. -/
inductive GoesOn (P : Reply → Prop) (h : Bool) (c : Context) (r : Report) (n : Chain.Node)
    (rest : List Chain.Node) (s : Step) : Except Fault Report → List Exchange → Prop
  | failed {message : String} : s.status = .failed → GoesOn P h c r n rest s
      (.ok { r.add s with
        status := .failed, error := some ⟨message, some n.id⟩, completedAt := some c.stamp }) []
  | passed {res : Except Fault Report} {xs : List Exchange} : s.status = .success →
      s.isPaused = false → (runNodes h c (r.add s) rest).ComesTo P res xs →
      GoesOn P h c r n rest s res xs
  | paused {due : Option Due} : s.status = .success → s.isPaused = true → s.due? = .ok due →
      GoesOn P h c r n rest s (.ok { r.add s with
        isPaused := true, pausedNode := some n.id, resumeAt := due, completedAt := some c.stamp }) []
  | faulted {f : Fault} : s.status = .success → s.isPaused = true → s.due? = .error f →
      GoesOn P h c r n rest s (.error f) []

section
variable {c : Context} {r : Report} {n : Chain.Node} {rest : List Chain.Node} {s : Step}
  {res : Except Fault Report} {xs : List Exchange}

theorem push_failed (hs : s.status = .failed) : ∃ message, r.push n s =
    .ok ({ r.add s with status := .failed, error := some ⟨message, some n.id⟩ }, true) := by
  unfold Report.push
  simp only [hs, if_true]
  exact ⟨_, rfl⟩

theorem push_passed (hs : s.status = .success) (hp : s.isPaused = false) :
    r.push n s = .ok (r.add s, false) := by
  unfold Report.push
  simp only [hs, reduceCtorEq, if_false, hp, Bool.false_eq_true]
  rfl

theorem push_paused (hs : s.status = .success) (hp : s.isPaused = true) :
    r.push n s = s.due?.map fun due =>
      ({ r.add s with isPaused := true, pausedNode := some n.id, resumeAt := due }, true) := by
  unfold Report.push
  simp only [hs, reduceCtorEq, if_false, hp, if_true]
  cases s.due? <;> rfl

/-- **What running further nodes comes to**, by the result of the first. -/
theorem comesTo_runNodes_cons (hr : (runNodes h c r (n :: rest)).ComesTo P res xs) :
    (∃ f, NodeRan P h c n (.error f) xs ∧ res = .error f) ∨
      ∃ s c' ys zs, NodeRan P h c n (.ok (s, c')) ys ∧ xs = ys ++ zs ∧
        GoesOn P h c' r n rest s res zs := by
  unfold runNodes at hr
  obtain ⟨result, ys, zs, hn, hrest, rfl⟩ := Plan.comesTo_bind.1 hr
  have hran := ran_of_comesTo hn
  cases result with
  | error f =>
    obtain ⟨rfl, rfl⟩ := Plan.comesTo_done.1 hrest
    rw [List.append_nil]
    exact Or.inl ⟨f, hran, rfl⟩
  | ok a =>
    obtain ⟨s, c'⟩ := a
    refine Or.inr ⟨s, c', ys, zs, hran, rfl, ?_⟩
    dsimp only at hrest
    cases hs : s.status with
    | failed =>
      obtain ⟨message, hpush⟩ := @push_failed r n s hs
      rw [hpush] at hrest
      obtain ⟨rfl, rfl⟩ := Plan.comesTo_done.1 hrest
      exact .failed hs
    | success =>
      cases hp : s.isPaused with
      | false =>
        rw [push_passed hs hp] at hrest
        exact .passed hs hp hrest
      | true =>
        rw [push_paused hs hp] at hrest
        cases hdue : s.due? with
        | error f =>
          rw [hdue] at hrest
          obtain ⟨rfl, rfl⟩ := Plan.comesTo_done.1 hrest
          exact .faulted hs hp hdue
        | ok due =>
          rw [hdue] at hrest
          obtain ⟨rfl, rfl⟩ := Plan.comesTo_done.1 hrest
          exact .paused hs hp hdue

/-- Behind a step that failed, a run ends, and its report names the node. -/
theorem GoesOn.of_failed (hg : GoesOn P h c r n rest s res xs) (hs : s.status = .failed) :
    (∃ message, res = .ok { r.add s with
      status := .failed, error := some ⟨message, some n.id⟩, completedAt := some c.stamp }) ∧
      xs = [] := by
  cases hg with
  | failed => exact ⟨⟨_, rfl⟩, rfl⟩
  | passed hs' => exact absurd (hs.symm.trans hs') (by decide)
  | paused hs' => exact absurd (hs.symm.trans hs') (by decide)
  | faulted hs' => exact absurd (hs.symm.trans hs') (by decide)

/-- Behind a step that passed, a run goes on. -/
theorem GoesOn.of_passed (hg : GoesOn P h c r n rest s res xs) (hs : s.status = .success)
    (hp : s.isPaused = false) : (runNodes h c (r.add s) rest).ComesTo P res xs := by
  cases hg with
  | failed hs' => exact absurd (hs.symm.trans hs') (by decide)
  | passed _ _ hrest => exact hrest
  | paused _ hp' => exact absurd (hp.symm.trans hp') Bool.false_ne_true
  | faulted _ hp' => exact absurd (hp.symm.trans hp') Bool.false_ne_true

/-- Behind a step that pauses it, a run ends, and its report says when it is due. -/
theorem GoesOn.of_paused (hg : GoesOn P h c r n rest s res xs) (hs : s.status = .success)
    (hp : s.isPaused = true) :
    res = s.due?.map (fun due => { r.add s with
      isPaused := true, pausedNode := some n.id, resumeAt := due, completedAt := some c.stamp }) ∧
      xs = [] := by
  cases hg with
  | failed hs' => exact absurd (hs.symm.trans hs') (by decide)
  | passed _ hp' => exact absurd (hp'.symm.trans hp) Bool.false_ne_true
  | paused _ _ hdue =>
    rw [hdue]
    exact ⟨rfl, rfl⟩
  | faulted _ _ hdue =>
    rw [hdue]
    exact ⟨rfl, rfl⟩

end

theorem comesTo_runNodes_nil {c : Context} {r : Report} {res : Except Fault Report}
    {xs : List Exchange} (hr : (runNodes h c r []).ComesTo P res xs) :
    res = .ok { r with completedAt := some c.stamp } ∧ xs = [] := by
  unfold runNodes at hr
  exact Plan.comesTo_done.1 hr

/-- Where a run begins: something may be pending at the first of the nodes ahead, and the wait that
the run comes back to is this node or none of them. -/
structure Awaits (c : Context) (nodes : List Chain.Node) (now : List Entry) : Prop where
  pending : now = [] ∨ ∃ n rest, nodes = n :: rest ∧ Unfinished n now
  replay : ∀ p ∈ c.replay, p.nodeId ∈ nodes.map (·.id) →
    ∃ n rest e, nodes = n :: rest ∧ p.nodeId = n.id ∧ now = [e] ∧ e.Paused n

/-- A run says no more than that the enrollment still waits where it waited. -/
def Still (nodes : List Chain.Node) (now : List Entry) (steps : List Step) : Prop :=
  ∃ n rest p s, nodes = n :: rest ∧ now = [p] ∧ steps = [s] ∧ p.Paused n ∧ s.entry.Paused n

theorem Awaits.head {c : Context} {n : Chain.Node} {rest : List Chain.Node} {now : List Entry}
    (hw : Awaits c (n :: rest) now) : Pending n now := by
  rcases hw.pending with hnow | ⟨m, rest', heq, hm⟩
  · exact Or.inl hnow
  · obtain ⟨rfl, -⟩ := List.cons.inj heq
    exact Or.inr hm

/-- Behind its first node a run has nothing pending, and comes back to no wait. -/
theorem Awaits.tail {c c' : Context} {n : Chain.Node} {rest : List Chain.Node} {now : List Entry}
    (hw : Awaits c (n :: rest) now) (hc : c'.replay = c.replay)
    (hnd : ((n :: rest).map (·.id)).Nodup) : Awaits c' rest [] := by
  refine ⟨Or.inl rfl, ?_⟩
  intro p hp hmem
  rw [hc] at hp
  obtain ⟨m, rest', e, heq, hid, -, -⟩ := hw.replay p hp (List.mem_cons_of_mem _ hmem)
  obtain ⟨rfl, -⟩ := List.cons.inj heq
  rw [List.map_cons, List.nodup_cons] at hnd
  exact absurd (hid ▸ hmem) hnd.1

theorem Still.of_nil {nodes : List Chain.Node} {steps : List Step} : ¬ Still nodes [] steps := by
  rintro ⟨n, rest, p, s, -, hnow, -⟩
  cases hnow

/-- **What a run adds makes a history** of the nodes ahead, or says that the enrollment still
waits. By recursion on the nodes: the first one takes up what is pending, behind it nothing is. -/
theorem walk_history : ∀ {nodes : List Chain.Node} {c : Context} {r report : Report}
    {now : List Entry} {xs : List Exchange}, (∀ n ∈ nodes, n.Fits) → (nodes.map (·.id)).Nodup →
    c.pauseAtWait = true → Awaits c nodes now →
    (runNodes h c r nodes).ComesTo Reply.Plain (.ok report) xs →
    ∃ steps, report.steps = r.steps ++ steps ∧
      (History nodes (now ++ steps.map Step.entry) ∨ Still nodes now steps ∧ report.isPaused = true)
  | [], c, r, report, now, xs, _, _, _, hw, hr => by
    obtain ⟨hres, -⟩ := comesTo_runNodes_nil hr
    cases hres
    refine ⟨[], (List.append_nil _).symm, Or.inl ?_⟩
    rcases hw.pending with rfl | ⟨n, rest, heq, -⟩
    · exact .nil []
    · cases heq
  | n :: rest, c, r, report, now, xs, hfit, hnd, hp, hw, hr => by
    rcases comesTo_runNodes_cons hr with ⟨f, -, hres⟩ | ⟨s, c', ys, zs, hran, -, hgo⟩
    · cases hres
    obtain ⟨ch, hc'⟩ := hran.context
    -- a block of the first node that is finished, and the run behind it
    have onward : Finished n (now ++ [s.entry]) → s.status = .success → s.isPaused = false →
        ∃ steps, report.steps = r.steps ++ steps ∧
          (History (n :: rest) (now ++ steps.map Step.entry) ∨
            Still (n :: rest) now steps ∧ report.isPaused = true) := by
      intro hfin hs hpass
      have hp' : c'.pauseAtWait = true := by rw [hc']; exact hp
      obtain ⟨steps, hsteps, hhist⟩ :=
        walk_history (fun m hm => hfit m (List.mem_cons_of_mem _ hm)) (List.nodup_cons.1 hnd).2 hp'
          (hw.tail (by rw [hc']) hnd) (hgo.of_passed hs hpass)
      rcases hhist with hhist | ⟨hstill, -⟩
      · refine ⟨s :: steps, ?_, Or.inl ?_⟩
        · rw [hsteps, Report.add, List.append_assoc, List.singleton_append]
        · have hcons := History.cons hfin hhist
          rwa [List.append_assoc] at hcons
      · exact absurd hstill Still.of_nil
    cases hran.kinds (hfit n List.mem_cons_self) hp with
    | failed ha he =>
      obtain ⟨⟨message, hres⟩, -⟩ := hgo.of_failed he.2
      cases hres
      exact ⟨[s], rfl, Or.inl (.unfinished (hw.head.fail ha he) rest)⟩
    | passed hc he => exact onward (hw.head.pass hc he) he.2.1 he.2.2
    | resumed hc he hrep =>
      obtain ⟨p, hp, hid⟩ := hrep
      obtain ⟨m, rest', e, heq, -, hnow, hpe⟩ :=
        hw.replay p hp (by rw [hid]; exact List.mem_cons_self)
      obtain ⟨rfl, -⟩ := List.cons.inj heq
      have hfin : Finished n (now ++ [s.entry]) := by
        rw [hnow]
        exact .wait hc hpe he
      exact onward hfin he.1.2.1 he.1.2.2
    | paused hc he =>
      obtain ⟨due, -, rfl⟩ := map_eq_ok.1 (hgo.of_paused he.2.1 he.2.2).1.symm
      refine ⟨[s], rfl, ?_⟩
      rcases hw.head.pause hc he with hu | ⟨p, hnow, hpp⟩
      · exact Or.inl (.unfinished hu rest)
      · exact Or.inr ⟨⟨n, rest, p, s, rfl, hnow, rfl, hpp, he⟩, rfl⟩

end Cadence
