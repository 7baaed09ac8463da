/-
# Where a run takes up a history

The last step of a history says where the next run starts. A failed step and a paused one are those
of the unfinished block, and the run starts at its node; any other is the last of a finished block,
and the run starts at the node after it. So the run starts at the first of the nodes that are not
done, or there is none and the chain is complete (`resumption_history`).

Key definitions: `Chain.ahead`, `TakesUp`.
Key theorems: `split_ids`, `indexOf?_append`, `runFrom_cases`, `resumption_due`,
`resumption_history`, `takesUp_of_resumption`, `run_history`.
-/
import Cadence.Proofs.Run.History
import Cadence.Run.Workflow

namespace Cadence

open Time

/-! ### Positions in a chain -/

/-- The nodes before a node have other ids than it and those behind it, and so have those behind. -/
theorem split_ids {chain : Chain} (hnd : (chain.nodes.map (·.id)).Nodup)
    {done rest : List Chain.Node} {n : Chain.Node} (hn : chain.nodes = done ++ n :: rest) :
    (∀ b ∈ done, ∀ m ∈ n :: rest, b.id ≠ m.id) ∧ ∀ m ∈ rest, m.id ≠ n.id := by
  rw [hn, List.map_append, List.map_cons, List.nodup_append, List.nodup_cons] at hnd
  constructor
  · intro b hb m hm
    exact hnd.2.2 b.id (List.mem_map_of_mem hb) m.id (List.mem_map_of_mem hm)
  · intro m hm hid
    exact hnd.2.1.1 (List.mem_map.2 ⟨m, hm, hid⟩)

/-- A node is found where it stands, because no other one has its id. -/
theorem indexOf?_append {chain : Chain} (hnd : (chain.nodes.map (·.id)).Nodup)
    {done rest : List Chain.Node} {n : Chain.Node} (hn : chain.nodes = done ++ n :: rest) :
    chain.indexOf? n.id = some done.length := by
  have hdone : done.findIdx? (fun m => decide (m.id = n.id)) = none := by
    rw [List.findIdx?_eq_none_iff]
    intro m hm
    simpa using (split_ids hnd hn).1 m hm n List.mem_cons_self
  unfold Chain.indexOf?
  rw [hn, List.findIdx?_append, hdone, List.findIdx?_cons]
  simp

theorem after?_append {chain : Chain} (hnd : (chain.nodes.map (·.id)).Nodup)
    {done rest : List Chain.Node} {n : Chain.Node} (hn : chain.nodes = done ++ n :: rest) :
    chain.after? n.id = rest.head? := by
  unfold Chain.after?
  rw [indexOf?_append hnd hn, Option.bind_some, hn,
    List.getElem?_append_right (Nat.le_succ done.length)]
  cases rest <;> simp

/-- The nodes that a run goes over which starts at a node, or at the trigger. -/
def Chain.ahead (c : Chain) : Option String → List Chain.Node
  | none => c.nodes
  | some id => c.nodes.dropWhile (·.id ≠ id)

/-- The nodes ahead are those from some node on. -/
theorem ahead_suffix (chain : Chain) (start : Option String) :
    chain.ahead start <:+ chain.nodes := by
  cases start with
  | none => exact List.suffix_rfl
  | some id => exact List.dropWhile_suffix _

theorem mem_of_ahead {chain : Chain} {start : Option String} {n : Chain.Node}
    (hn : n ∈ chain.ahead start) : n ∈ chain.nodes := (ahead_suffix chain start).subset hn

/-- A run of a chain goes over the nodes ahead, or there are none. -/
theorem runFrom_cases (chain : Chain) (h : Bool) (id : String) (c : Context)
    (start : Option String) :
    chain.runFrom h id c start = runNodes h c (Report.opening id c.stamp) (chain.ahead start) ∧
        (chain.nodes ≠ [] → chain.ahead start ≠ []) ∨
      chain.ahead start = [] ∧ ∃ complaint, chain.runFrom h id c start =
        .done (.ok ((Report.opening id c.stamp).failure complaint c.stamp)) := by
  cases start with
  | none => exact Or.inl ⟨rfl, fun hne => hne⟩
  | some node =>
    have hdrop : chain.nodes.dropWhile (·.id ≠ node) =
        chain.nodes.drop (chain.nodes.findIdx (·.id = node)) := by
      rw [List.dropWhile_eq_drop_findIdx_not]
      simp
    unfold Chain.runFrom Chain.indexOf? Chain.ahead
    dsimp only
    rw [hdrop]
    cases hindex : chain.nodes.findIdx? (·.id = node) with
    | some i =>
      obtain ⟨hlt, heq⟩ := List.findIdx?_eq_some_iff_findIdx_eq.1 hindex
      rw [heq]
      refine Or.inl ⟨rfl, fun _ hnil => ?_⟩
      rw [List.drop_eq_nil_iff] at hnil
      omega
    | none =>
      refine Or.inr ⟨?_, _, rfl⟩
      rw [List.findIdx_eq_length.2, List.drop_length]
      simpa using List.findIdx?_eq_none_iff.1 hindex

/-! ### The last step -/

theorem Finished.last {n : Chain.Node} {block : List Entry} (hf : Finished n block) :
    ∃ before e, block = before ++ [e] ∧ e.Succeeded n := by
  cases hf with
  | trigger _ he => exact ⟨[], _, rfl, he⟩
  | action _ _ he => exact ⟨_, _, rfl, he⟩
  | wait _ _ he => exact ⟨[_], _, rfl, he.1⟩

/-- The last of finished blocks ends with a success of its node. -/
theorem blocks_last : ∀ {done : List Chain.Node} {blocks : List (List Entry)},
    List.Forall₂ Finished done blocks → done = [] ∧ blocks = [] ∨
      ∃ done' n before e, done = done' ++ [n] ∧ blocks.flatten = before ++ [e] ∧ e.Succeeded n
  | _, _, .nil => Or.inl ⟨rfl, rfl⟩
  | n :: done, block :: blocks, .cons hn hb => by
    refine Or.inr ?_
    rcases blocks_last hb with ⟨rfl, rfl⟩ | ⟨done', m, before, e, rfl, heq, he⟩
    · obtain ⟨before, e, rfl, he⟩ := hn.last
      exact ⟨[], n, before, e, rfl, by simp, he⟩
    · refine ⟨n :: done', m, block ++ before, e, rfl, ?_, he⟩
      rw [List.flatten_cons, heq, List.append_assoc]

/-- An unfinished block ends with a failure, or it is a pause. -/
theorem Unfinished.last {n : Chain.Node} {now : List Entry} (hn : Unfinished n now) :
    ∃ before e, now = before ++ [e] ∧ (e.Failed n ∨ e.Paused n ∧ before = []) := by
  cases hn with
  | failed _ hne hf =>
    refine ⟨now.dropLast, now.getLast hne, (List.dropLast_append_getLast hne).symm, ?_⟩
    exact Or.inl (hf _ (List.getLast_mem hne))
  | paused _ hp => exact ⟨[], _, rfl, Or.inr ⟨hp, rfl⟩⟩

/-- The last step of a list whose entries end with a given one. -/
theorem getLast?_of_entries {steps : List Step} {before : List Entry} {e : Entry}
    (h : steps.map Step.entry = before ++ [e]) : ∃ s, steps.getLast? = some s ∧ s.entry = e := by
  have hlast : (steps.getLast?).map Step.entry = some e := by
    rw [← List.getLast?_map, h, List.getLast?_concat]
  exact Option.map_eq_some_iff.1 hlast

/-! ### Resuming -/

section
variable {chain : Chain} {steps : List Step} {s : Step}

/-- Behind a failed step the next run starts at its node. -/
theorem resumption_of_failed (hl : steps.getLast? = some s) (hs : s.status = .failed) :
    resumption chain steps = .ok ⟨some s.nodeId, none⟩ := by
  unfold resumption
  rw [hl]
  simp only [hs, if_true]

/-- Behind a pause the next run starts at the wait, and knows when it is due. -/
theorem resumption_of_paused (hl : steps.getLast? = some s) (hs : s.status = .success)
    (hp : s.isPaused = true) :
    resumption chain steps = s.due?.map fun due => ⟨some s.nodeId, due⟩ := by
  unfold resumption
  rw [hl]
  simp only [hs, reduceCtorEq, if_false, hp, if_true]
  cases s.due? <;> rfl

/-- Behind a step that passed the next run starts at the node after its node. -/
theorem resumption_of_passed (hl : steps.getLast? = some s) (hs : s.status = .success)
    (hp : s.isPaused = false) (hi : (chain.indexOf? s.nodeId).isSome = true) :
    resumption chain steps = .ok ⟨(chain.after? s.nodeId).map (·.id), none⟩ := by
  have hfind : (steps.reverse.find? fun s =>
      decide (s.status = .success) && (chain.indexOf? s.nodeId).isSome) = some s := by
    obtain ⟨before, hsteps⟩ := List.getLast?_eq_some_iff.1 hl
    rw [hsteps, List.reverse_append, List.reverse_singleton, List.singleton_append]
    refine List.find?_cons_of_pos ?_
    rw [hs, hi]
    rfl
  unfold resumption
  rw [hl]
  simp only [hs, reduceCtorEq, if_false, hp, Bool.false_eq_true]
  simp only [hfind]

/-- **A run comes back to a wait only behind a pause**, and then when this pause says. -/
theorem resumption_due {p : Resumption} {d : Due}
    (hp : resumption chain steps = .ok p) (hd : p.due = some d) : ∃ last,
      steps.getLast? = some last ∧ last.status = .success ∧ last.isPaused = true ∧
        p.node = some last.nodeId ∧ last.due? = .ok (some d) := by
  cases hlast : steps.getLast? with
  | none =>
    unfold resumption at hp
    rw [hlast] at hp
    cases hp
    cases hd
  | some last =>
    cases hstatus : last.status with
    | failed =>
      rw [resumption_of_failed hlast hstatus] at hp
      cases hp
      cases hd
    | success =>
      cases hpaused : last.isPaused with
      | false =>
        unfold resumption at hp
        simp only [hlast, hstatus, reduceCtorEq, if_false, hpaused, Bool.false_eq_true] at hp
        split at hp <;> cases hp <;> cases hd
      | true =>
        rw [resumption_of_paused hlast hstatus hpaused] at hp
        obtain ⟨due, hdue, rfl⟩ := map_eq_ok.1 hp
        obtain rfl : due = some d := hd
        exact ⟨last, rfl, hstatus, hpaused, rfl, hdue⟩

end

/-- **A run starts at the first node that is not done.** It comes back to a wait only if this node
is one and the enrollment is paused at it. -/
theorem resumption_history {chain : Chain} (hs : chain.Sound) {steps : List Step} {p : Resumption}
    (hh : History chain.nodes (steps.map Step.entry)) (hp : resumption chain steps = .ok p) :
    ∃ done rest blocks now, chain.nodes = done ++ rest ∧ List.Forall₂ Finished done blocks ∧
      steps.map Step.entry = blocks.flatten ++ now ∧ p.node = rest.head?.map (·.id) ∧
      (now = [] ∨ ∃ n rest', rest = n :: rest' ∧ Unfinished n now) ∧
      (p.due.isSome = true → ∃ n rest' e, rest = n :: rest' ∧ now = [e] ∧ e.Paused n) := by
  obtain ⟨done, rest, blocks, now, hnodes, hb, hnow, hent⟩ := hh
  refine ⟨done, rest, blocks, now, hnodes, hb, hent, ?_⟩
  rcases hnow with rfl | ⟨n, rest', rfl, hn⟩
  · rw [List.append_nil] at hent
    rcases blocks_last hb with ⟨rfl, rfl⟩ | ⟨done', n, before, e, rfl, hlast, he⟩
    · rw [List.flatten_nil, List.map_eq_nil_iff] at hent
      rw [hent] at hp
      cases hp
      refine ⟨?_, Or.inl rfl, fun h => absurd h Bool.false_ne_true⟩
      rw [Chain.firstId, hnodes, List.nil_append]
    · obtain ⟨s, hs', rfl⟩ := getLast?_of_entries (hent.trans hlast)
      have hid : s.nodeId = n.id := he.1.1
      rw [List.append_assoc, List.singleton_append] at hnodes
      have hindex : (chain.indexOf? s.nodeId).isSome = true := by
        rw [hid, indexOf?_append hs.nodup hnodes]
        rfl
      rw [resumption_of_passed hs' he.2.1 he.2.2 hindex] at hp
      cases hp
      refine ⟨?_, Or.inl rfl, fun h => absurd h Bool.false_ne_true⟩
      rw [hid, after?_append hs.nodup hnodes]
  · obtain ⟨before, e, rfl, he⟩ := hn.last
    rw [← List.append_assoc] at hent
    obtain ⟨s, hs', rfl⟩ := getLast?_of_entries hent
    rcases he with he | ⟨he, rfl⟩
    · rw [resumption_of_failed hs' he.2] at hp
      cases hp
      exact ⟨congrArg some he.1.1, Or.inr ⟨n, rest', rfl, hn⟩,
        fun h => absurd h Bool.false_ne_true⟩
    · rw [resumption_of_paused hs' he.2.1 he.2.2] at hp
      obtain ⟨due, -, rfl⟩ := map_eq_ok.1 hp
      exact ⟨congrArg some he.1.1, Or.inr ⟨n, rest', rfl, hn⟩,
        fun _ => ⟨n, rest', s.entry, rfl, rfl, he⟩⟩

/-- A run that starts at a node runs the nodes from there on. -/
theorem runFrom_append {chain : Chain} (hnd : (chain.nodes.map (·.id)).Nodup)
    {done rest : List Chain.Node} {n : Chain.Node} (hn : chain.nodes = done ++ n :: rest) (h : Bool)
    (id : String) (c : Context) : chain.runFrom h id c (some n.id) =
      runNodes h c (Report.opening id c.stamp) (n :: rest) := by
  unfold Chain.runFrom
  simp only [indexOf?_append hnd hn]
  rw [hn, List.drop_left]

/-- Where a run takes up a history, it awaits what is pending there. -/
theorem awaits_of_resumption {p : Resumption} {rest : List Chain.Node} {now : List Entry}
    {options : RunOptions} (hnode : p.node = rest.head?.map (·.id))
    (hnow : now = [] ∨ ∃ n rest', rest = n :: rest' ∧ Unfinished n now)
    (hdue : p.due.isSome = true → ∃ n rest' e, rest = n :: rest' ∧ now = [e] ∧ e.Paused n)
    (hstart : options.start = p.node) (hresume : options.resumeAt = p.due)
    (window : Option Workflow.SendWindow) : Awaits (options.context window) rest now := by
  refine ⟨hnow, ?_⟩
  intro q hq _
  have hreplay : (options.context window).replay =
      p.node.bind fun node => p.due.map (⟨node, ·⟩) := by
    rw [← hstart, ← hresume]
    rfl
  rw [hreplay] at hq
  obtain ⟨node, hnode', hq⟩ := Option.bind_eq_some_iff.1 hq
  obtain ⟨due, hdue', rfl⟩ := Option.map_eq_some_iff.1 hq
  obtain ⟨n, rest', e, rfl, hnow, he⟩ := hdue (by rw [hdue']; rfl)
  rw [hnode'] at hnode
  exact ⟨n, rest', e, rfl, Option.some.inj hnode, hnow, he⟩

/-- A run of a chain takes up the history at a node and runs the nodes from there on. -/
structure TakesUp (h : Bool) (chain : Chain) (steps : List Step) (options : RunOptions)
    (n : Chain.Node) (rest : List Chain.Node) (now : List Entry) : Prop where
  split : ∃ done blocks, chain.nodes = done ++ n :: rest ∧ List.Forall₂ Finished done blocks ∧
    steps.map Step.entry = blocks.flatten ++ now
  awaits : Awaits (options.context options.sendWindow) (n :: rest) now
  run : Runnable.run h (.chain chain) options = runNodes h (options.context options.sendWindow)
    (Report.opening options.id options.stamp) (n :: rest)

theorem takesUp_of_resumption {chain : Chain} (hs : chain.Sound) {steps : List Step}
    {p : Resumption} (hh : History chain.nodes (steps.map Step.entry))
    (hp : resumption chain steps = .ok p) (hsome : p.node.isSome = true) {options : RunOptions}
    (hstart : options.start = p.node) (hresume : options.resumeAt = p.due) (h : Bool) :
    ∃ n rest now, TakesUp h chain steps options n rest now := by
  obtain ⟨done, rest, blocks, now, hnodes, hb, hent, hnode, hnow, hdue⟩ :=
    resumption_history hs hh hp
  cases rest with
  | nil =>
    rw [hnode] at hsome
    cases hsome
  | cons n rest =>
    refine ⟨n, rest, now, ⟨done, blocks, hnodes, hb, hent⟩,
      awaits_of_resumption hnode hnow hdue hstart hresume options.sendWindow, ?_⟩
    have hstart' : options.start = some n.id := by rw [hstart, hnode]; rfl
    have hrun := runFrom_append hs.nodup hnodes h options.id (options.context options.sendWindow)
    rw [← hstart'] at hrun
    exact hrun

namespace TakesUp

variable {h : Bool} {chain : Chain} {steps : List Step} {options : RunOptions} {n : Chain.Node}
  {rest : List Chain.Node} {now : List Entry}

theorem mem (ht : TakesUp h chain steps options n rest now) :
    ∀ m ∈ n :: rest, m ∈ chain.nodes := by
  obtain ⟨done, blocks, hnodes, -⟩ := ht.split
  intro m hm
  rw [hnodes]
  exact List.mem_append_right _ hm

theorem nodup (ht : TakesUp h chain steps options n rest now) (hs : chain.Sound) :
    ((n :: rest).map (·.id)).Nodup := by
  obtain ⟨done, blocks, hnodes, -⟩ := ht.split
  have hnd := hs.nodup
  rw [hnodes, List.map_append, List.nodup_append] at hnd
  exact hnd.2.1

/-- The run comes back to no wait behind its first node. -/
theorem replay (ht : TakesUp h chain steps options n rest now) (hs : chain.Sound) :
    ∀ p ∈ (options.context options.sendWindow).replay, p.nodeId ∉ rest.map (·.id) := by
  have htail := ht.awaits.tail rfl (ht.nodup hs)
  intro p hp hmem
  obtain ⟨m, rest', e, -, -, hnow, -⟩ := htail.replay p hp hmem
  cases hnow

end TakesUp

/-- **A run adds to a history what makes it a history again**, or it says that the enrollment still
waits where it waited. -/
theorem run_history {chain : Chain} (hs : chain.Sound) {steps : List Step} {p : Resumption}
    (hh : History chain.nodes (steps.map Step.entry)) (hp : resumption chain steps = .ok p)
    (hsome : p.node.isSome = true) {options : RunOptions} (hstart : options.start = p.node)
    (hresume : options.resumeAt = p.due) (hpause : options.pauseAtWait = true) {h : Bool}
    {report : Report} {xs : List Exchange}
    (hr : (Runnable.run h (.chain chain) options).ComesTo Reply.Plain (.ok report) xs) :
    History chain.nodes ((steps ++ report.steps).map Step.entry) ∨
      report.isPaused = true ∧ ∃ s last, report.steps = [s] ∧ steps.getLast? = some last ∧
        last.isPaused = true ∧ last.nodeId = s.nodeId := by
  obtain ⟨n, rest, now, ht⟩ := takesUp_of_resumption hs hh hp hsome hstart hresume h
  rw [ht.run] at hr
  obtain ⟨steps', hsteps, hhist⟩ :=
    walk_history (fun m hm => hs.fits m (ht.mem m hm)) (ht.nodup hs) hpause ht.awaits hr
  obtain ⟨done, blocks, hnodes, hb, hent⟩ := ht.split
  have hreport : report.steps = steps' := by
    rw [hsteps]
    rfl
  rcases hhist with hhist | ⟨⟨m, rest', q, s, heq, hnow', hsteps', hq, hs'⟩, hpaused⟩
  · refine Or.inl ?_
    rw [List.map_append, hent, hreport, hnodes, List.append_assoc]
    exact History.append hb hhist
  · refine Or.inr ⟨hpaused, s, ?_⟩
    rw [hnow'] at hent
    obtain ⟨last, hlast, rfl⟩ := getLast?_of_entries hent
    exact ⟨last, by rw [hreport, hsteps'], hlast, hq.2.2, hq.1.1.trans hs'.1.1.symm⟩

end Cadence
