/-
# Waits in a run

A wait in a run that pauses does one of three things (`Waited`): it begins, and pauses the run until
its time from now has passed; it goes on, where the run came back to it too early; or it is over,
where the run came back to it in time. Which of them happens is a matter of the wait that the run
comes back to. That is the one whose pause is the last step so far (`resumption_due`), and only the
first step of the run can be one of it (`ahead_of_start`).

The lemmas ask nothing of the replies of collaborators.

Key definitions: `Waited`, `Ran`, `Behind`, `TookUp`.
Key theorems: `NodeRan.waited_of_wait`, `walk_ran`, `run_ran`, `ahead_of_start`, `run_waits`,
`run_again`.
-/
import Cadence.Proofs.Run.Journey
import Cadence.Proofs.Run.Reported
import Mathlib.Data.List.Nodup

namespace Cadence

open Time

variable {P : Reply → Prop} {h : Bool} {c : Context} {n : Chain.Node}

/-! ### One wait -/

/-- What a wait comes to in a run that pauses. -/
inductive Waited (c : Context) (n : Chain.Node) (amount : Int) (unit : WaitUnit) (s : Step) : Prop
  | begun {due : Moment} : (∀ p ∈ c.replay, p.nodeId ≠ n.id) →
      dueAfter c.now amount unit = .ok due → s.entry.Paused n → s.entry.isResumed = false →
      s.get "resumeAt" = .str due.iso → Waited c n amount unit s
  | again {due : Moment} : c.replay = some ⟨n.id, .at due⟩ → due.le? c.now = some false →
      s.entry.Paused n → s.entry.isResumed = false → s.get "resumeAt" = .str due.iso →
      Waited c n amount unit s
  | elapsed {due : Moment} : c.replay = some ⟨n.id, .at due⟩ → due.le? c.now = some true →
      s.entry.Resumed n → s.get "resumeAt" = .str due.iso → Waited c n amount unit s

/-- The channel of the last delivery does not matter to a wait. -/
theorem Waited.of_channel {ch : Option String} {amount : Int} {unit : WaitUnit} {s : Step}
    (hw : Waited { c with lastChannel := ch } n amount unit s) : Waited c n amount unit s := by
  cases hw with
  | begun hreplay hdue hpaused hno htext => exact .begun hreplay hdue hpaused hno htext
  | again hreplay hle hpaused hno htext => exact .again hreplay hle hpaused hno htext
  | elapsed hreplay hle hresumed htext => exact .elapsed hreplay hle hresumed htext

theorem stepOfWait_waited (hp : c.pauseAtWait = true) {amount : Int} {unit : WaitUnit} {s : Step}
    (hs : stepOfWait c n amount unit = .ok s) : Waited c n amount unit s := by
  unfold stepOfWait at hs
  simp only [hp, Bool.not_true, Bool.false_eq_true, if_false] at hs
  split at hs
  · rename_i id due hreplay
    obtain ⟨hmem, hid⟩ := Option.filter_eq_some_iff.1 hreplay
    have hid' : id = n.id := by simpa using hid
    rw [hid'] at hmem
    split at hs
    · cases hs
    · rename_i hle
      cases hs
      exact .elapsed hmem hle ⟨⟨⟨rfl, rfl⟩, rfl, rfl⟩, rfl⟩ rfl
    · rename_i hle
      cases hs
      exact .again hmem hle ⟨⟨rfl, rfl⟩, rfl, rfl⟩ rfl rfl
  · cases hs
  · rename_i hreplay
    obtain ⟨due, hdue, hs⟩ := bind_eq_ok.1 hs
    cases hs
    refine .begun ?_ hdue ⟨⟨rfl, rfl⟩, rfl, rfl⟩ rfl rfl
    intro p hp
    simpa using Option.filter_eq_none_iff.1 hreplay p hp

/-- **What a wait comes to** in a run that pauses. -/
theorem NodeRan.waited_of_wait (hf : n.Fits) (hp : c.pauseAtWait = true) {amount : Int}
    {unit : WaitUnit} (hc : n.config = .wait amount unit) {s : Step} {c' : Context}
    {xs : List Exchange} (hr : NodeRan P h c n (.ok (s, c')) xs) : Waited c n amount unit s := by
  have hm := mayRun_of_not_action (c := c) hf (Chain.Node.not_action_of_wait hc)
  obtain ⟨hstep, -⟩ := hr.of_wait hm hc
  obtain ⟨s', hs, heq⟩ := map_eq_ok.1 hstep.symm
  cases heq
  exact stepOfWait_waited hp hs

/-! ### The steps of a run -/

/-- A node came to a step in a run, whatever the last delivery before it was. -/
def Ran (P : Reply → Prop) (h : Bool) (c : Context) (n : Chain.Node) (s : Step) : Prop :=
  ∃ ch c' xs, NodeRan P h { c with lastChannel := ch } n (.ok (s, c')) xs

theorem Ran.nodeId {s : Step} (hr : Ran P h c n s) : s.nodeId = n.id := by
  obtain ⟨ch, c', xs, hran⟩ := hr
  obtain ⟨status, output, rfl⟩ := hran.step
  rfl

theorem Ran.waited (hf : n.Fits) (hp : c.pauseAtWait = true) {amount : Int} {unit : WaitUnit}
    (hc : n.config = .wait amount unit) {s : Step} (hr : Ran P h c n s) :
    Waited c n amount unit s := by
  obtain ⟨ch, c', xs, hran⟩ := hr
  have hp' : ({ c with lastChannel := ch } : Context).pauseAtWait = true := hp
  exact (hran.waited_of_wait hf hp' hc).of_channel

/-- **Each step of a report is one of the node at its position.** By recursion on the nodes: behind
a step that passed, the run is one over the rest. -/
theorem walk_ran : ∀ {nodes : List Chain.Node} {c : Context} {r report : Report}
    {xs : List Exchange}, (runNodes h c r nodes).ComesTo P (.ok report) xs →
    ∃ steps : List Step, report.steps = r.steps ++ steps ∧
      ∀ (m : Nat) (s : Step), steps[m]? = some s → ∃ n, nodes[m]? = some n ∧ Ran P h c n s
  | [], c, r, report, xs, hr => by
    obtain ⟨hres, -⟩ := comesTo_runNodes_nil hr
    cases hres
    exact ⟨[], (List.append_nil _).symm, fun m s hs => by simp at hs⟩
  | n :: rest, c, r, report, xs, hr => by
    rcases comesTo_runNodes_cons hr with ⟨f, -, hres⟩ | ⟨s, c', ys, zs, hran, -, hgo⟩
    · cases hres
    have hone : ∀ (m : Nat) (s' : Step), [s][m]? = some s' →
        ∃ n', (n :: rest)[m]? = some n' ∧ Ran P h c n' s' := by
      intro m s' hs'
      obtain ⟨rfl, rfl⟩ : m = 0 ∧ s = s' := by
        cases m <;> simp_all
      exact ⟨n, rfl, c.lastChannel, c', ys, hran⟩
    cases hgo with
    | failed hf => exact ⟨[s], rfl, hone⟩
    | paused hsucc hpaused hdue => exact ⟨[s], rfl, hone⟩
    | passed hsucc hpass hrest =>
      obtain ⟨ch, rfl⟩ := hran.context
      obtain ⟨steps, hsteps, hall⟩ := walk_ran (r := r.add s) hrest
      refine ⟨s :: steps, ?_, ?_⟩
      · rw [hsteps, Report.add, List.append_assoc, List.singleton_append]
      · intro m s' hs'
        cases m with
        | zero => exact hone 0 s' hs'
        | succ m =>
          obtain ⟨n', hn', ch', c'', ws, hran'⟩ := hall m s' (by simpa using hs')
          exact ⟨n', by simpa using hn', ch', c'', ws, hran'⟩

/-- Each step of the report of a chain's run is one of the node at its position ahead. -/
theorem run_ran {chain : Chain} {options : RunOptions} {report : Report} {xs : List Exchange}
    (hr : (Runnable.run h (.chain chain) options).ComesTo P (.ok report) xs) {m : Nat} {s : Step}
    (hs : report.steps[m]? = some s) : ∃ n, (chain.ahead options.start)[m]? = some n ∧
      Ran P h (options.context options.sendWindow) n s := by
  have hrun : (chain.runFrom h options.id (options.context options.sendWindow)
      options.start).ComesTo P (.ok report) xs := hr
  rcases runFrom_cases chain h options.id (options.context options.sendWindow) options.start with
    ⟨heq, -⟩ | ⟨-, complaint, heq⟩
  · rw [heq] at hrun
    obtain ⟨steps, hsteps, hall⟩ := walk_ran hrun
    rw [hsteps] at hs
    exact hall m s hs
  · rw [heq] at hrun
    obtain ⟨hres, -⟩ := Plan.comesTo_done.1 hrun
    cases hres
    simp [Report.failure, Report.opening] at hs

/-! ### The wait that a run comes back to -/

/-- The node that a run starts at is ahead of no other one. -/
theorem ahead_of_start {chain : Chain} (hs : chain.Sound) {id : String} {m : Nat}
    (hn : (chain.ahead (some id))[m]? = some n) (hid : n.id = id) : m = 0 := by
  have hnd : ((chain.ahead (some id)).map (·.id)).Nodup :=
    hs.nodup.sublist ((List.dropWhile_sublist _).map _)
  have hhead := List.head?_dropWhile_not (fun a : Chain.Node => decide (a.id ≠ id)) chain.nodes
  rw [show chain.nodes.dropWhile (fun a => decide (a.id ≠ id)) = chain.ahead (some id) from rfl]
    at hhead
  cases hahead : chain.ahead (some id) with
  | nil =>
    rw [hahead] at hn
    simp at hn
  | cons first rest =>
    rw [hahead] at hn hnd hhead
    have hfirst : first.id = id := by simpa using hhead
    cases m with
    | zero => rfl
    | succ m =>
      have hmem : n ∈ rest := List.mem_of_getElem? (by simpa using hn)
      rw [List.map_cons, List.nodup_cons] at hnd
      exact absurd (List.mem_map.2 ⟨n, hmem, hid.trans hfirst.symm⟩) hnd.1

/-- Where a run comes back to a wait, it starts at the wait. -/
theorem start_of_replay {options : RunOptions} {window : Option Workflow.SendWindow} {q : Replay}
    (hq : (options.context window).replay = some q) :
    options.start = some q.nodeId ∧ options.resumeAt = some q.due := by
  have hreplay : (options.start.bind fun node => options.resumeAt.map (⟨node, ·⟩)) = some q := hq
  obtain ⟨node, hnode, hreplay⟩ := Option.bind_eq_some_iff.1 hreplay
  obtain ⟨due, hdue, rfl⟩ := Option.map_eq_some_iff.1 hreplay
  exact ⟨hnode, hdue⟩

/-- A step that pauses at the start of a run is all there is to the report. -/
theorem Closes.of_head_paused {nodes : List Chain.Node} {report : Report} {steps : List Step}
    {s : Step} (hc : Closes P h c nodes report steps) (hs : steps[0]? = some s)
    (hsucc : s.status = .success) (hp : s.isPaused = true) :
    steps = [s] ∧ report.isPaused = true := by
  have hno : ∀ {before : List Step}, (∀ b ∈ before, b.Passed) → before[0]? ≠ some s := by
    intro before hbefore hmem
    exact absurd ((hbefore s (List.mem_of_getElem? hmem)).2.symm.trans hp) Bool.false_ne_true
  have hlast : ∀ {before : List Step} {s' : Step}, (∀ b ∈ before, b.Passed) →
      (before ++ [s'])[0]? = some s → before = [] ∧ s' = s := by
    intro before s' hbefore hmem
    cases before with
    | nil => exact ⟨rfl, by simpa using hmem⟩
    | cons b before => exact absurd (by simpa using hmem) (hno hbefore)
  cases hc with
  | arrived hall => exact absurd hs (hno hall)
  | failed hbefore hfailed =>
    obtain ⟨-, rfl⟩ := hlast hbefore hs
    exact absurd (hsucc.symm.trans hfailed) (by decide)
  | paused hbefore _ _ _ _ hyes =>
    obtain ⟨rfl, rfl⟩ := hlast hbefore hs
    exact ⟨rfl, hyes⟩

/-- Steps end with a pause at a node, until a moment. -/
structure Behind (steps : List Step) (n : Chain.Node) (due : Moment) : Prop where
  last : ∃ last, steps.getLast? = some last ∧ last.status = .success ∧ last.isPaused = true ∧
    last.nodeId = n.id ∧ last.due? = .ok (some (.at due))

/-- There is only one moment until which steps pause. -/
theorem Behind.unique {steps : List Step} {due due' : Moment} (hb : Behind steps n due)
    (hb' : Behind steps n due') : due' = due := by
  obtain ⟨last, hlast, -, -, -, hdue⟩ := hb.last
  obtain ⟨last', hlast', -, -, -, hdue'⟩ := hb'.last
  obtain rfl := Option.some.inj (hlast.symm.trans hlast')
  rw [hdue] at hdue'
  cases hdue'
  rfl

/-- Behind a pause at a node, a run comes back to this node. -/
theorem Behind.resumption {steps : List Step} {due : Moment} (hb : Behind steps n due)
    (chain : Chain) : Cadence.resumption chain steps = .ok ⟨some n.id, some (.at due)⟩ := by
  obtain ⟨last, hlast, hsucc, hpaused, hid, hdue⟩ := hb.last
  rw [resumption_of_paused hlast hsucc hpaused, hdue, hid]
  rfl

/-- What a step says that a wait has in a run which takes up steps, at a position of its report: the
wait has begun, or it goes on, or it is over. -/
inductive TookUp (steps : List Step) (now : Moment) (report : Report) (n : Chain.Node)
    (amount : Int) (unit : WaitUnit) (m : Nat) (s : Step) : Prop
  | begun {due : Moment} : (∀ due, ¬ Behind steps n due) → dueAfter now amount unit = .ok due →
      s.entry.Paused n → s.entry.isResumed = false → s.get "resumeAt" = .str due.iso →
      TookUp steps now report n amount unit m s
  | again {due : Moment} : Behind steps n due → report.steps = [s] → report.isPaused = true →
      due.le? now = some false → s.entry.Paused n → s.entry.isResumed = false →
      s.get "resumeAt" = .str due.iso → TookUp steps now report n amount unit m s
  | elapsed {due : Moment} : Behind steps n due → m = 0 → due.le? now = some true →
      s.entry.Resumed n → s.get "resumeAt" = .str due.iso →
      TookUp steps now report n amount unit m s

/-- **What the steps of waits say** in a run that takes up steps. -/
theorem run_waits {chain : Chain} (hs : chain.Sound) {steps : List Step} {p : Resumption}
    (hp : resumption chain steps = .ok p) {options : RunOptions} (hstart : options.start = p.node)
    (hresume : options.resumeAt = p.due) (hpause : options.pauseAtWait = true) {report : Report}
    {xs : List Exchange} (hr : (Runnable.run h (.chain chain) options).ComesTo P (.ok report) xs)
    {m : Nat} {s : Step} (hm : report.steps[m]? = some s) (hn : n ∈ chain.nodes) {amount : Int}
    {unit : WaitUnit} (hc : n.config = .wait amount unit) (hid : s.nodeId = n.id) :
    TookUp steps options.now.assumeUtc report n amount unit m s := by
  obtain ⟨n', hn', hran⟩ := run_ran hr hm
  obtain rfl := List.inj_on_of_nodup_map hs.nodup (mem_of_ahead (List.mem_of_getElem? hn')) hn
    (hran.nodeId.symm.trans hid)
  -- a wait that the run comes back to is that of the last step, and stands at the start
  have hback : ∀ {due : Moment},
      (options.context options.sendWindow).replay = some ⟨n'.id, .at due⟩ →
      Behind steps n' due ∧ m = 0 := by
    intro due hreplay
    obtain ⟨hnode, hdue⟩ := start_of_replay hreplay
    obtain ⟨last, hlast, hsucc, hpaused, hnode', hread⟩ :=
      resumption_due hp (hresume.symm.trans hdue)
    rw [hnode] at hn'
    refine ⟨⟨last, hlast, hsucc, hpaused, ?_, hread⟩, ahead_of_start hs hn' rfl⟩
    exact Option.some.inj (hnode'.symm.trans (hstart.symm.trans hnode))
  cases hran.waited (hs.fits _ hn) hpause hc with
  | begun hreplay hdue hpaused hno htext =>
    refine .begun ?_ hdue hpaused hno htext
    intro due hb
    obtain rfl := Except.ok.inj ((hb.resumption chain).symm.trans hp)
    have hreplay' : (options.context options.sendWindow).replay = some ⟨n'.id, .at due⟩ := by
      show (options.start.bind fun node => options.resumeAt.map (Replay.mk node ·)) = _
      rw [hstart, hresume]
      rfl
    exact hreplay _ hreplay' rfl
  | again hreplay hle hpaused hno htext =>
    obtain ⟨hb, rfl⟩ := hback hreplay
    rcases run_closes hr with ⟨-, -, hnil⟩ | ⟨nodes, -, -, -, hcloses⟩
    · rw [hnil] at hm
      cases hm
    · obtain ⟨hone, hyes⟩ := hcloses.of_head_paused hm hpaused.2.1 hpaused.2.2
      exact .again hb hone hyes hle hpaused hno htext
  | elapsed hreplay hle hresumed htext =>
    obtain ⟨hb, hm0⟩ := hback hreplay
    exact .elapsed hb hm0 hle hresumed htext

/-- **A run that comes back to a wait too early** pauses there again and asks nobody. -/
theorem run_again {chain : Chain} (hs : chain.Sound) (hn : n ∈ chain.nodes) {amount : Int}
    {unit : WaitUnit} (hc : n.config = .wait amount unit) {due : Moment} (hvalid : due.IsValid)
    {options : RunOptions} (hstart : options.start = some n.id)
    (hresume : options.resumeAt = some (.at due)) (hpause : options.pauseAtWait = true)
    (hle : due.le? options.now.assumeUtc = some false) {res : Except Fault Report}
    {xs : List Exchange} (hr : (Runnable.run h (.chain chain) options).ComesTo P res xs) :
    xs = [] ∧ ∃ report s, res = .ok report ∧ report.steps = [s] ∧ s.nodeId = n.id ∧
      report.status = .success ∧ report.isPaused = true ∧
      report.resumeAt = some (.at due.kept) := by
  obtain ⟨done, rest, hnodes⟩ := List.append_of_mem hn
  have hreplay : (options.context options.sendWindow).replay = some ⟨n.id, .at due⟩ := by
    show (options.start.bind fun node => options.resumeAt.map (Replay.mk node ·)) = _
    rw [hstart, hresume]
    rfl
  have hrun : (chain.runFrom h options.id (options.context options.sendWindow)
      options.start).ComesTo P res xs := hr
  rw [hstart, runFrom_append hs.nodup hnodes] at hrun
  have hm := mayRun_of_not_action (c := options.context options.sendWindow) (hs.fits n hn)
    (Chain.Node.not_action_of_wait hc)
  obtain ⟨s, hstep, hid, hsucc, hpaused, htext⟩ := stepOfWait_again hpause hreplay hle amount unit
  obtain ⟨hnone, hres⟩ := comesTo_pause hm hc hstep hsucc hpaused
    (due?_of_iso htext (ofIso?_iso hvalid)) hrun
  exact ⟨hnone, _, s, hres, rfl, hid, rfl, rfl, rfl⟩

end Cadence
