/-
# A run and the next one agree

Where a run of a chain stops is said twice: by its report, which names the node that failed or
paused, and by its steps, from which the next run reads where to start. Among plain replies the two
agree, whatever steps there were before (`run_rejoined`).

A run from a node goes over the nodes from there on, and each step is one of the node at its
position (`walk_prefix`). So the last step is one of the node that the run stopped at, and because
ids are unique, the node behind it is found again: there is none exactly if the run went to the end.
The report names the node of its last step (`walk_names`), and a pause tells the due time of the
wait in a text, from which report and next run read the same moment (`due_of_pause`).

Key definition: `Report.Rejoined`.
Key theorems: `walk_prefix`, `walk_names`, `walk_rejoined`, `run_rejoined`.
-/
import Cadence.Proofs.Run.Claimed

namespace Cadence

open Time

variable {P : Reply → Prop} {h : Bool} {c : Context} {n : Chain.Node} {nodes : List Chain.Node}
  {report : Report} {xs : List Exchange}

/-- **What a report and its steps say together**, of a run over some nodes of a chain: the steps are
those of the nodes in order, up to the last step, and the next run starts where this one stopped,
whatever steps there were before. -/
structure Report.Rejoined (chain : Chain) (c : Context) (nodes : List Chain.Node) (report : Report)
    (last : Step) : Prop where
  ends : report.steps.getLast? = some last
  segment : report.steps.map (·.nodeId) <+: nodes.map (·.id)
  passed : ∀ s ∈ report.steps.dropLast, s.Passed
  failed_iff : report.status = .failed ↔ last.status = .failed
  paused_iff : report.isPaused = true ↔ last.isPaused = true
  fine : report.status = .success → report.error = none
  failed : report.status = .failed →
    (∃ message, report.error = some ⟨message, some last.nodeId⟩) ∧
      ∀ before, resumption chain (before ++ report.steps) = .ok ⟨some last.nodeId, none⟩
  paused : report.isPaused = true → report.pausedNode = some last.nodeId ∧
    (∃ n ∈ nodes, last.nodeId = n.id ∧ ∃ due m, DueIn c n due ∧ Moment.ofIso? due.iso = some m ∧
      (due.IsValid → m = due.kept) ∧ report.resumeAt = some (.at m)) ∧
      ∀ before, resumption chain (before ++ report.steps) = .ok ⟨some last.nodeId, report.resumeAt⟩
  complete : report.status = .success → report.isPaused = false →
    report.steps.map (·.nodeId) = nodes.map (·.id) ∧
      ∀ before, resumption chain (before ++ report.steps) = .ok ⟨none, none⟩

/-! ### What a report names -/

/-- The steps of a report are those of the nodes in order. -/
theorem walk_prefix {r : Report} (hempty : r.steps = [])
    (hr : (runNodes h c r nodes).ComesTo P (.ok report) xs) :
    report.steps.map (·.nodeId) <+: nodes.map (·.id) := by
  obtain ⟨steps, hsteps, hran⟩ := walk_ran hr
  rw [hempty, List.nil_append] at hsteps
  rw [hsteps, List.prefix_iff_getElem?]
  intro m hm
  rw [List.length_map] at hm
  obtain ⟨n, hn, hran⟩ := hran m steps[m] (List.getElem?_eq_getElem hm)
  rw [List.getElem?_map, hn, Option.map_some, List.getElem_map, hran.nodeId]

/-- **A report names the node that it failed or paused at**, the node of its last step, and
complains of nothing else. By recursion on the nodes: behind a step that passed, the run is one over
the rest. -/
theorem walk_names : ∀ {nodes : List Chain.Node} {c : Context} {r report : Report}
    {xs : List Exchange}, r.status = .success → r.isPaused = false →
    (runNodes h c r nodes).ComesTo P (.ok report) xs →
    (report.status = .failed → ∃ last message, report.steps.getLast? = some last ∧
      report.error = some ⟨message, some last.nodeId⟩) ∧
      (report.status = .success → report.error = r.error) ∧
      (report.isPaused = true → ∃ last, report.steps.getLast? = some last ∧
        report.pausedNode = some last.nodeId)
  | [], c, r, report, xs, hs, hp, hr => by
    obtain ⟨hres, -⟩ := comesTo_runNodes_nil hr
    cases hres
    exact ⟨fun hf => absurd (hs.symm.trans hf) (by decide), fun _ => rfl,
      fun hp' => absurd (hp.symm.trans hp') Bool.false_ne_true⟩
  | n :: rest, c, r, report, xs, hs, hp, hr => by
    rcases comesTo_runNodes_cons hr with ⟨f, -, hres⟩ | ⟨s, c', ys, zs, hran, -, hgo⟩
    · cases hres
    obtain ⟨status, output, hstep⟩ := hran.step
    have hid : s.nodeId = n.id := by
      rw [hstep]
      rfl
    cases hgo with
    | failed hf =>
      rw [← hid]
      exact ⟨fun _ => ⟨s, _, List.getLast?_concat, rfl⟩, fun hs' => (nomatch hs'),
        fun hp' => absurd (hp.symm.trans hp') Bool.false_ne_true⟩
    | passed _ _ hrest => exact walk_names (r := r.add s) hs hp hrest
    | paused =>
      rw [← hid]
      exact ⟨fun hf => absurd (hs.symm.trans hf) (by decide), fun _ => rfl,
        fun _ => ⟨s, List.getLast?_concat, rfl⟩⟩

/-- The report of a pause tells the moment that the text of its step tells, which is that of the due
time of the wait. -/
theorem due_of_pause {s : Step} {c' : Context} {due? : Option Due}
    (hran : NodeRan Reply.Plain h c n (.ok (s, c')) xs) (hp : s.isPaused = true)
    (hdue : s.due? = .ok due?) : ∃ due m, DueIn c n due ∧ Moment.ofIso? due.iso = some m ∧
      (due.IsValid → m = due.kept) ∧ due? = some (.at m) := by
  obtain ⟨-, due, htext, hin⟩ := hran.pause hp
  obtain ⟨m, hm, rfl⟩ := ofIso?_of_due? htext hdue
  refine ⟨due, m, hin, hm, fun hvalid => ?_, rfl⟩
  exact Option.some.inj (hm.symm.trans (ofIso?_iso hvalid))

/-! ### A run over nodes of a chain -/

section
variable {chain : Chain} {done : List Chain.Node}

/-- Behind a run that went to the end of a chain nothing is left to run. -/
theorem resumption_of_end (hnd : (chain.nodes.map (·.id)).Nodup) (hn : chain.nodes = done ++ nodes)
    (hne : nodes ≠ []) (hcloses : Closes Reply.Plain h c nodes report report.steps)
    (hs : report.status = .success) (hno : report.isPaused = false) (before : List Step) :
    resumption chain (before ++ report.steps) = .ok ⟨none, none⟩ := by
  obtain ⟨last, passed, n, hlast, rfl, hid, hsucc, hpass⟩ := hcloses.last_passed hs hno hne
  rw [← List.append_assoc] at hn
  have hindex : (chain.indexOf? last.nodeId).isSome = true := by
    rw [hid, indexOf?_append hnd hn]
    rfl
  have hbehind : (before ++ report.steps).getLast? = some last := by
    rw [List.getLast?_append, hlast, Option.some_or]
  -- the last step is of the last node of the chain, so no node comes after it
  rw [resumption_of_passed hbehind hsucc hpass hindex, hid, after?_append hnd hn]
  rfl

/-- **A run over the nodes of a chain from one on agrees with the next run.** -/
theorem walk_rejoined (hnd : (chain.nodes.map (·.id)).Nodup) (hn : chain.nodes = done ++ nodes)
    (hne : nodes ≠ []) {r : Report} (hs : r.status = .success) (hp : r.isPaused = false)
    (hempty : r.steps = []) (hnone : r.error = none)
    (hr : (runNodes h c r nodes).ComesTo Reply.Plain (.ok report) xs) :
    ∃ last, report.Rejoined chain c nodes last := by
  obtain ⟨herror, hfine, hnamed⟩ := walk_names hs hp hr
  rw [hnone] at hfine
  obtain ⟨steps, hsteps, -, hcloses⟩ := walk_closes hs hp hr
  rw [hempty, List.nil_append] at hsteps
  rw [← hsteps] at hcloses
  obtain ⟨last, hlast, hpassed, hfailed, hpaused⟩ := hcloses.ends hne
  have hbehind : ∀ before : List Step, (before ++ report.steps).getLast? = some last := by
    intro before
    rw [List.getLast?_append, hlast, Option.some_or]
  refine ⟨last, {
    ends := hlast
    segment := walk_prefix hempty hr
    passed := hpassed
    failed_iff := hfailed
    paused_iff := hpaused
    fine := hfine
    failed := fun hf => ⟨?_, fun before => resumption_of_failed (hbehind before) (hfailed.1 hf)⟩
    paused := fun hyes => ?_
    complete := fun hsucc hno =>
      ⟨hcloses.ids_of_passed hsucc hno, resumption_of_end hnd hn hne hcloses hsucc hno⟩ }⟩
  · obtain ⟨last', message, hlast', hmessage⟩ := herror hf
    obtain rfl := Option.some.inj (hlast.symm.trans hlast')
    exact ⟨message, hmessage⟩
  · obtain ⟨last', hlast', hnode⟩ := hnamed hyes
    obtain rfl := Option.some.inj (hlast.symm.trans hlast')
    obtain ⟨s, n, ch, c', ys, hs, hsucc, hpause, hdue, hmem, hran⟩ := hcloses.pause hyes
    obtain rfl := Option.some.inj (hlast.symm.trans hs)
    obtain ⟨due, m, hin, hread, hkept, htold⟩ := due_of_pause hran hpause hdue
    refine ⟨hnode, ⟨n, hmem, (hran.pause hpause).1, due, m, hin, hread, hkept, htold⟩,
      fun before => ?_⟩
    rw [resumption_of_paused (hbehind before) hsucc hpause, hdue]
    rfl

end

/-! ### A run of a chain -/

/-- **A run and the next one agree.** A run of a chain with unique ids, from a node or from its
trigger, has steps of the nodes from there on, all of them passed but perhaps the last. If it failed,
its report names the node of the last step and the next run starts there anew; if it paused, the
next run starts there and knows the very due time of the report; else it went to the end of the
chain, and there is nothing left to run. Earlier steps change nothing of this. -/
theorem run_rejoined {chain : Chain} (hnd : (chain.nodes.map (·.id)).Nodup) {i : Nat}
    {n : Chain.Node} (hn : chain.nodes[i]? = some n) {start : Option String}
    (hstart : start = some n.id ∨ start = none ∧ i = 0) {id : String} {report : Report}
    {xs : List Exchange}
    (hr : (chain.runFrom h id c start).ComesTo Reply.Plain (.ok report) xs) :
    ∃ last, report.Rejoined chain c (chain.nodes.drop i) last := by
  obtain ⟨hi, rfl⟩ := List.getElem?_eq_some_iff.1 hn
  have hdrop : chain.nodes.drop i = chain.nodes[i] :: chain.nodes.drop (i + 1) :=
    List.drop_eq_getElem_cons hi
  have hsplit : chain.nodes = chain.nodes.take i ++ chain.nodes.drop i :=
    (List.take_append_drop i chain.nodes).symm
  have hrun : chain.runFrom h id c start =
      runNodes h c (Report.opening id c.stamp) (chain.nodes.drop i) := by
    rcases hstart with rfl | ⟨rfl, rfl⟩
    · rw [hdrop]
      exact runFrom_append hnd (hsplit.trans (by rw [hdrop])) h id c
    · rfl
  rw [hrun] at hr
  exact walk_rejoined hnd hsplit (by rw [hdrop]; exact List.cons_ne_nil _ _) rfl rfl rfl rfl hr

/-- An email is sent, and the next run comes back to the wait behind it when the report says. -/
theorem run_rejoined_outing :
    let c := Outing.options.context none
    let mail : Chain.Node := ⟨"mail", "send-email", .email "Hello" "Hi" none⟩
    ∃ report xs last, (Outing.chain.nodes.map (·.id)).Nodup ∧ Outing.chain.nodes[1]? = some mail ∧
      (some "mail" = some mail.id ∨ some "mail" = none ∧ 1 = 0) ∧
      (Outing.chain.runFrom true "execution-id" c (some "mail")).ComesTo Reply.Plain (.ok report)
        xs ∧
      report.Rejoined Outing.chain c (Outing.chain.nodes.drop 1) last ∧
      report.resumeAt = some (.at ⟨63870086400 * second, some 0⟩) ∧ last.nodeId = "rest" := by
  intro c mail
  let k : Collaborators Unit := ⟨fun _ w => (.returned (.obj Outing.receipt), w), true⟩
  have hreply : ∀ d w, (k.deliver d w).1.Plain := by
    intro d w
    show ∀ m ∈ Outing.receipt, m.1 = "paused" → m.2.isTruthy = false
    decide
  have hnd : (Outing.chain.nodes.map (·.id)).Nodup := by decide
  have hmail : Outing.chain.nodes[1]? = some mail := rfl
  have hstart : some "mail" = some mail.id ∨ some "mail" = none ∧ 1 = 0 := Or.inl rfl
  have hcomes := Plan.comesTo_run hreply
    (Outing.chain.runFrom true "execution-id" c (some "mail")) ()
  have hends : ((Outing.chain.runFrom true "execution-id" c (some "mail")).run k ()).1.map
      (fun r => (r.resumeAt, r.steps.getLast?.map (·.nodeId))) =
      .ok (some (.at ⟨63870086400 * second, some 0⟩), some "rest") := by decide +kernel
  generalize ((Outing.chain.runFrom true "execution-id" c (some "mail")).run k ()).1 = res
    at hcomes hends
  obtain ⟨report, rfl, hreads⟩ := map_eq_ok.1 hends
  obtain ⟨last, hrejoined⟩ := run_rejoined hnd hmail hstart hcomes
  rw [hrejoined.ends] at hreads
  obtain ⟨hdue, hlast⟩ := Prod.mk.inj hreads
  exact ⟨report, _, last, hnd, hmail, hstart, hcomes, hrejoined, hdue, Option.some.inj hlast⟩

end Cadence
