/-
# What a report says

A report lists a step for each node that was run, in their order, and all of them have passed but
perhaps the last one: it has failed, or it has paused the run, and then the report says when it is
due (`Closes`). Where all steps have passed, every node has been run.

Among plain replies only a wait pauses a run. Its step says until when: the moment that the wait
was to end before, if the run came back to it, else the one at which it ends from now on
(`NodeRan.wait_of_pause`, `NodeRan.pause`). A reply that claims a pause need not say until when; the
step does if all such replies do (`NodeRan.resumeAt_given`).

Key definitions: `Step.Passed`, `Closes`, `DueIn`, `Reply.Definite`.
Key theorems: `walk_closes`, `run_closes`, `NodeRan.failed_isPaused`,
`NodeRan.wait_of_pause`, `NodeRan.pause`, `NodeRan.resumeAt_given`.
-/
import Cadence.Proofs.Run.Resume
import Cadence.Proofs.Time.Iso

namespace Cadence

open Time

variable {P : Reply → Prop} {h : Bool} {c : Context} {n : Chain.Node}

/-- A step behind which a run goes on. -/
def Step.Passed (s : Step) : Prop := s.status = .success ∧ s.isPaused = false

/-- How the report of a run over some nodes ends, by the steps of the run. -/
inductive Closes (P : Reply → Prop) (h : Bool) (c : Context) (nodes : List Chain.Node)
    (report : Report) : List Step → Prop
  | arrived {steps : List Step} : (∀ s ∈ steps, s.Passed) →
      steps.map (·.nodeId) = nodes.map (·.id) → report.status = .success →
      report.isPaused = false → Closes P h c nodes report steps
  | failed {before : List Step} {s : Step} {n : Chain.Node} {ch : Option String} {c' : Context}
      {xs : List Exchange} : (∀ b ∈ before, b.Passed) → s.status = .failed →
      report.status = .failed → report.isPaused = false → n ∈ nodes →
      NodeRan P h { c with lastChannel := ch } n (.ok (s, c')) xs →
      Closes P h c nodes report (before ++ [s])
  | paused {before : List Step} {s : Step} {n : Chain.Node} {ch : Option String} {c' : Context}
      {xs : List Exchange} : (∀ b ∈ before, b.Passed) → s.status = .success → s.isPaused = true →
      s.due? = .ok report.resumeAt → report.status = .success → report.isPaused = true →
      n ∈ nodes → NodeRan P h { c with lastChannel := ch } n (.ok (s, c')) xs →
      Closes P h c nodes report (before ++ [s])

theorem Closes.cons {rest : List Chain.Node} {report : Report} {steps : List Step} {s : Step}
    {ch : Option String} (hs : s.Passed) (hid : s.nodeId = n.id)
    (hc : Closes P h { c with lastChannel := ch } rest report steps) :
    Closes P h c (n :: rest) report (s :: steps) := by
  have hpassed : ∀ {before : List Step}, (∀ b ∈ before, b.Passed) → ∀ b ∈ s :: before, b.Passed := by
    intro before hbefore b hb
    rcases List.mem_cons.1 hb with rfl | hb
    · exact hs
    · exact hbefore b hb
  cases hc with
  | arrived hall hids hstatus hpaused =>
    refine .arrived (hpassed hall) ?_ hstatus hpaused
    rw [List.map_cons, List.map_cons, hid, hids]
  | failed hbefore hf hstatus hpaused hmem hran =>
    exact .failed (hpassed hbefore) hf hstatus hpaused (List.mem_cons_of_mem _ hmem) hran
  | paused hbefore hsucc hp hdue hstatus hpaused hmem hran =>
    exact .paused (hpassed hbefore) hsucc hp hdue hstatus hpaused (List.mem_cons_of_mem _ hmem) hran

/-- **The report of a run lists its steps and says how they end.** By recursion on the nodes: behind
a step that passed, the run is one over the rest. -/
theorem walk_closes : ∀ {nodes : List Chain.Node} {c : Context} {r report : Report}
    {xs : List Exchange}, r.status = .success → r.isPaused = false →
    (runNodes h c r nodes).ComesTo P (.ok report) xs →
    ∃ steps, report.steps = r.steps ++ steps ∧ (∀ s ∈ steps, s.createdAt = c.stamp) ∧
      Closes P h c nodes report steps
  | [], c, r, report, xs, hs, hp, hr => by
    obtain ⟨hres, -⟩ := comesTo_runNodes_nil hr
    cases hres
    exact ⟨[], (List.append_nil _).symm, fun _ h => absurd h List.not_mem_nil,
      .arrived (fun _ h => absurd h List.not_mem_nil) rfl hs hp⟩
  | n :: rest, c, r, report, xs, hs, hp, hr => by
    rcases comesTo_runNodes_cons hr with ⟨f, -, hres⟩ | ⟨s, c', ys, zs, hran, -, hgo⟩
    · cases hres
    obtain ⟨status, output, hstep⟩ := hran.step
    have hat : s.createdAt = c.stamp := by
      rw [hstep]
      rfl
    have hone : ∀ s' ∈ [s], s'.createdAt = c.stamp := by
      intro s' hs'
      rw [List.mem_singleton.1 hs']
      exact hat
    cases hgo with
    | failed hf =>
      exact ⟨[s], rfl, hone, .failed (fun _ h => absurd h List.not_mem_nil) hf rfl hp
        List.mem_cons_self hran⟩
    | passed hsucc hpass hrest =>
      obtain ⟨ch, rfl⟩ := hran.context
      obtain ⟨steps, hsteps, hats, hcloses⟩ := walk_closes (r := r.add s) hs hp hrest
      refine ⟨s :: steps, ?_, ?_, hcloses.cons ⟨hsucc, hpass⟩ (by rw [hstep]; rfl)⟩
      · rw [hsteps, Report.add, List.append_assoc, List.singleton_append]
      · intro s' hs'
        rcases List.mem_cons.1 hs' with rfl | hs'
        · exact hat
        · exact hats s' hs'
    | paused hsucc hpaused hdue =>
      exact ⟨[s], rfl, hone, .paused (fun _ h => absurd h List.not_mem_nil) hsucc hpaused hdue hs
        rfl List.mem_cons_self hran⟩

/-- **The report of a run of a chain**: the run went over the nodes from some node on, or there was no
node to start at. -/
theorem run_closes {chain : Chain} {options : RunOptions} {report : Report} {xs : List Exchange}
    (hr : (Runnable.run h (.chain chain) options).ComesTo P (.ok report) xs) :
    (report.status = .failed ∧ report.isPaused = false ∧ report.steps = []) ∨
      ∃ nodes, nodes <:+ chain.nodes ∧ (chain.nodes ≠ [] → nodes ≠ []) ∧
        (∀ s ∈ report.steps, s.createdAt = options.stamp) ∧
        Closes P h (options.context options.sendWindow) nodes report report.steps := by
  have hrun : (chain.runFrom h options.id (options.context options.sendWindow)
      options.start).ComesTo P (.ok report) xs := hr
  rcases runFrom_cases chain h options.id (options.context options.sendWindow) options.start with
    ⟨heq, hne⟩ | ⟨-, complaint, heq⟩
  · rw [heq] at hrun
    obtain ⟨steps, hsteps, hats, hcloses⟩ := walk_closes rfl rfl hrun
    have hreport : report.steps = steps := hsteps
    rw [hreport]
    exact Or.inr ⟨chain.ahead options.start, ahead_suffix _ _, hne, hats, hcloses⟩
  · rw [heq] at hrun
    obtain ⟨hres, -⟩ := Plan.comesTo_done.1 hrun
    cases hres
    exact Or.inl ⟨rfl, rfl, rfl⟩

/-! ### Pauses -/

/-- A step that failed does not claim to pause the run, whatever the reply was. -/
theorem NodeRan.failed_isPaused {s : Step} {c' : Context} {xs : List Exchange}
    (hr : NodeRan P h c n (.ok (s, c')) xs) (hs : s.status = .failed) : s.isPaused = false := by
  generalize hres : Except.ok (s, c') = res at hr
  cases hr with
  | trigger => cases hres; cases hs
  | blocked => cases hres
  | skipped => cases hres; cases hs
  | waited =>
    obtain ⟨s', hs', heq⟩ := map_eq_ok.1 hres.symm
    cases heq
    obtain ⟨output, rfl⟩ := stepOfWait_step hs'
    cases hs
  | refused => cases hres; rfl
  | late => cases hres; rfl
  | answered =>
    unfold settle at hres
    split at hres
    · cases hres
      rfl
    · cases hres
      split at hs
      · cases hs
      · rfl

namespace Closes

variable {nodes : List Chain.Node} {report : Report} {steps : List Step}

/-- Among plain replies no step of a report that does not pause is a pause. -/
theorem unpaused (hc : Closes Reply.Plain h c nodes report steps)
    (hno : report.isPaused = false) : ∀ s ∈ steps, s.isPaused = false := by
  intro s hs
  cases hc with
  | arrived hall => exact (hall s hs).2
  | failed hbefore hf _ _ _ hran =>
    rcases List.mem_append.1 hs with hs | hs
    · exact (hbefore s hs).2
    · rw [List.mem_singleton.1 hs]
      exact hran.failed_isPaused hf
  | paused _ _ _ _ _ hyes => exact absurd (hno.symm.trans hyes) Bool.false_ne_true

/-- No failed step of a report is a pause. -/
theorem failed_isPaused (hc : Closes P h c nodes report steps) :
    ∀ s ∈ steps, s.status = .failed → s.isPaused = false := by
  intro s hs hf
  cases hc with
  | arrived hall => exact (hall s hs).2
  | failed hbefore _ _ _ _ hran =>
    rcases List.mem_append.1 hs with hs | hs
    · exact (hbefore s hs).2
    · rw [List.mem_singleton.1 hs] at hf ⊢
      exact hran.failed_isPaused hf
  | paused hbefore hsuccess =>
    rcases List.mem_append.1 hs with hs | hs
    · exact (hbefore s hs).2
    · rw [List.mem_singleton.1 hs, hsuccess] at hf
      cases hf

/-- A report that failed does not pause, and its last step failed. -/
theorem last_failed (hc : Closes P h c nodes report steps) (hf : report.status = .failed) :
    report.isPaused = false ∧ ∃ s, steps.getLast? = some s ∧ s.status = .failed := by
  cases hc with
  | arrived _ _ hs => exact absurd (hs.symm.trans hf) (by decide)
  | failed _ hlast _ hno => exact ⟨hno, _, List.getLast?_concat, hlast⟩
  | paused _ _ _ _ hs => exact absurd (hs.symm.trans hf) (by decide)

/-- The last step of a report that succeeded without a pause passed the last node. -/
theorem last_passed (hc : Closes P h c nodes report steps) (hs : report.status = .success)
    (hno : report.isPaused = false) (hne : nodes ≠ []) : ∃ s before n,
      steps.getLast? = some s ∧ nodes = before ++ [n] ∧ s.nodeId = n.id ∧ s.Passed := by
  cases hc with
  | failed _ _ hf => exact absurd (hs.symm.trans hf) (by decide)
  | paused _ _ _ _ _ hyes => exact absurd (hno.symm.trans hyes) Bool.false_ne_true
  | arrived hpassed hids =>
    obtain ⟨before, n, hnodes⟩ := (List.eq_nil_or_concat nodes).resolve_left hne
    rw [List.concat_eq_append] at hnodes
    have hlast : (steps.map (·.nodeId)).getLast? = some n.id := by
      rw [hids, hnodes, List.map_append]
      exact List.getLast?_concat
    rw [List.getLast?_map] at hlast
    obtain ⟨s, hs', hid⟩ := Option.map_eq_some_iff.1 hlast
    exact ⟨s, before, n, hs', hnodes, hid, hpassed s (List.mem_of_getLast? hs')⟩

/-- A report that succeeded without a pause has a step of every node. -/
theorem ids_of_passed (hc : Closes P h c nodes report steps) (hs : report.status = .success)
    (hno : report.isPaused = false) : steps.map (·.nodeId) = nodes.map (·.id) := by
  cases hc with
  | arrived _ hids => exact hids
  | failed _ _ hf => exact absurd (hs.symm.trans hf) (by decide)
  | paused _ _ _ _ _ hyes => exact absurd (hno.symm.trans hyes) Bool.false_ne_true

/-- The pause of a report is the step of one of the nodes, and says the due time of the report. -/
theorem pause (hc : Closes P h c nodes report steps) (hp : report.isPaused = true) :
    ∃ s n ch c' xs, steps.getLast? = some s ∧ s.status = .success ∧ s.isPaused = true ∧
      s.due? = .ok report.resumeAt ∧ n ∈ nodes ∧
      NodeRan P h { c with lastChannel := ch } n (.ok (s, c')) xs := by
  cases hc with
  | arrived _ _ _ hno => exact absurd (hno.symm.trans hp) Bool.false_ne_true
  | failed _ _ _ hno => exact absurd (hno.symm.trans hp) Bool.false_ne_true
  | paused _ hsucc hpause hdue _ _ hmem hran =>
    exact ⟨_, _, _, _, _, List.getLast?_concat, hsucc, hpause, hdue, hmem, hran⟩

/-- Behind steps that passed comes the last one, which failed or paused exactly if the report
did. -/
theorem ends (hc : Closes P h c nodes report steps) (hne : nodes ≠ []) : ∃ last,
    steps.getLast? = some last ∧ (∀ s ∈ steps.dropLast, s.Passed) ∧
      (report.status = .failed ↔ last.status = .failed) ∧
      (report.isPaused = true ↔ last.isPaused = true) := by
  cases hc with
  | arrived hpassed hids hstatus hno =>
    have hcloses : Closes P h c nodes report steps := .arrived hpassed hids hstatus hno
    obtain ⟨last, -, -, hlast, -, -, hsucc, hpass⟩ := hcloses.last_passed hstatus hno hne
    refine ⟨last, hlast, fun s hs => hpassed s (List.dropLast_subset _ hs), ?_, ?_⟩
    · rw [hstatus, hsucc]
    · rw [hno, hpass]
  | failed hbefore hf hstatus hno _ hran =>
    refine ⟨_, List.getLast?_concat, by rwa [List.dropLast_concat], ?_, ?_⟩
    · rw [hstatus, hf]
    · rw [hno, hran.failed_isPaused hf]
  | paused hbefore hsucc hpaused _ hstatus hyes =>
    refine ⟨_, List.getLast?_concat, by rwa [List.dropLast_concat], ?_, ?_⟩
    · rw [hstatus, hsucc]
    · rw [hyes, hpaused]

end Closes

/-- When a wait that pauses a run is due: as it was before, if the run comes back to it, else after
its time. -/
def DueIn (c : Context) (n : Chain.Node) (due : Moment) : Prop :=
  c.replay = some ⟨n.id, .at due⟩ ∨
    (∀ p ∈ c.replay, p.nodeId ≠ n.id) ∧
      ∃ amount unit, n.config = .wait amount unit ∧ dueAfter c.now amount unit = .ok due

theorem stepOfWait_paused {amount : Int} {unit : WaitUnit} {s : Step}
    (hc : n.config = .wait amount unit) (hs : stepOfWait c n amount unit = .ok s)
    (hp : s.isPaused = true) : ∃ due, s.get "resumeAt" = .str due.iso ∧ DueIn c n due := by
  unfold stepOfWait at hs
  dsimp only at hs
  split at hs
  · cases hs
    exact absurd hp Bool.false_ne_true
  · split at hs
    · rename_i id due hreplay
      obtain ⟨hmem, hid⟩ := Option.filter_eq_some_iff.1 hreplay
      have hid' : id = n.id := by simpa using hid
      split at hs
      · cases hs
      · cases hs
        exact absurd hp Bool.false_ne_true
      · cases hs
        refine ⟨due, rfl, Or.inl ?_⟩
        rw [hmem, hid']
    · cases hs
    · rename_i hreplay
      obtain ⟨due, hdue, hs⟩ := bind_eq_ok.1 hs
      cases hs
      refine ⟨due, rfl, Or.inr ⟨?_, amount, unit, hc, hdue⟩⟩
      intro p hp
      simpa using Option.filter_eq_none_iff.1 hreplay p hp

/-- **Among plain replies only a wait pauses a run.** -/
theorem NodeRan.wait_of_pause {s : Step} {c' : Context} {xs : List Exchange}
    (hr : NodeRan Reply.Plain h c n (.ok (s, c')) xs) (hp : s.isPaused = true) :
    ∃ amount unit, n.config = .wait amount unit ∧ stepOfWait c n amount unit = .ok s := by
  have hno : ∀ {made : Step × Context}, made.1.isPaused = false → (s, c') ≠ made := by
    rintro made hmade rfl
    exact Bool.false_ne_true (hmade.symm.trans hp)
  generalize hres : Except.ok (s, c') = res at hr
  cases hr with
  | trigger => exact absurd (Except.ok.inj hres) (hno rfl)
  | blocked => cases hres
  | skipped => exact absurd (Except.ok.inj hres) (hno rfl)
  | waited hc =>
    obtain ⟨s', hs, heq⟩ := map_eq_ok.1 hres.symm
    cases heq
    exact ⟨_, _, hc, hs⟩
  | refused => exact absurd (Except.ok.inj hres) (hno rfl)
  | late => exact absurd (Except.ok.inj hres) (hno rfl)
  | answered ha hm ho ht hplain =>
    rename_i o r
    rcases settle_plain (c := c) (n := n) hplain o with ⟨f, hsettle, -⟩ | ⟨fields, -, hd, hsettle⟩
    · rw [hsettle] at hres
      exact absurd (Except.ok.inj hres) (hno rfl)
    · rw [hsettle] at hres
      refine absurd (Except.ok.inj hres) (hno ?_)
      exact (Json.Fields.denies_merge (orderOf_denies ho) hd).getD

/-- The step of a pause says until when it is. -/
theorem NodeRan.pause {s : Step} {c' : Context} {xs : List Exchange}
    (hr : NodeRan Reply.Plain h c n (.ok (s, c')) xs) (hp : s.isPaused = true) :
    s.nodeId = n.id ∧ ∃ due, s.get "resumeAt" = .str due.iso ∧ DueIn c n due := by
  obtain ⟨amount, unit, hc, hs⟩ := hr.wait_of_pause hp
  obtain ⟨output, hstep⟩ := stepOfWait_step hs
  exact ⟨by rw [hstep]; rfl, stepOfWait_paused hc hs hp⟩

/-- A reply that says until when it pauses the run if it claims to. -/
def Reply.Definite (r : Reply) : Prop := ∀ members fields, r.members = .ok members →
  members.fields = .ok fields →
  (Json.Fields.getD (Json.Fields.merge [] fields) "paused").isTruthy = true →
  (Json.Fields.getD (Json.Fields.merge [] fields) "resumeAt").isTruthy = true

theorem Reply.Plain.definite {r : Reply} (hr : r.Plain) : r.Definite := by
  intro members fields hmembers hfields hclaims
  cases r with
  | returned v =>
    obtain ⟨given, rfl, hdenies⟩ := hr.obj
    rw [members_obj] at hmembers
    obtain rfl := Except.ok.inj hmembers
    rw [fields_ofFields] at hfields
    obtain rfl := Except.ok.inj hfields
    have hno := (Json.Fields.denies_merge (f := []) (fun _ h => absurd h List.not_mem_nil)
      hdenies).getD
    exact absurd (hno.symm.trans hclaims) Bool.false_ne_true
  | failed f => cases hmembers
  | hung => cases hmembers

/-- What an order records besides the reply is whom the delivery goes to. -/
theorem orderOf_getD {o : Order} (ho : orderOf c h n = .ok o) {key : String}
    (hkey : key ∉ ["to", "agentId"]) : Json.Fields.getD o.output key = Json.Fields.getD [] key := by
  simp only [List.mem_cons, List.not_mem_nil, or_false, not_or] at hkey
  have hone : ∀ k v, k ≠ key → Json.Fields.getD [(k, v)] key = Json.Fields.getD [] key := by
    intro k v hne
    rw [Json.Fields.getD_cons, if_neg hne]
  cases ordered_of_orderOf ho with
  | email | sms => exact hone _ _ (Ne.symm hkey.1)
  | agent => exact hone _ _ (Ne.symm hkey.2)

/-- **The step of a pause says until when it is**, if replies that claim a pause do. -/
theorem NodeRan.resumeAt_given (hP : ∀ r, P r → r.Definite) {s : Step} {c' : Context}
    {xs : List Exchange} (hr : NodeRan P h c n (.ok (s, c')) xs) (hp : s.isPaused = true) :
    (s.get "resumeAt").isTruthy = true := by
  have hno : ∀ {made : Step × Context}, made.1.isPaused = false → (s, c') ≠ made := by
    rintro made hmade rfl
    exact Bool.false_ne_true (hmade.symm.trans hp)
  generalize hres : Except.ok (s, c') = res at hr
  cases hr with
  | trigger => exact absurd (Except.ok.inj hres) (hno rfl)
  | blocked => cases hres
  | skipped => exact absurd (Except.ok.inj hres) (hno rfl)
  | waited hc =>
    obtain ⟨s', hs, heq⟩ := map_eq_ok.1 hres.symm
    cases heq
    obtain ⟨due, hdue, -⟩ := stepOfWait_paused hc hs hp
    rw [hdue]
    simp [Json.isTruthy, iso_ne_empty]
  | refused => exact absurd (Except.ok.inj hres) (hno rfl)
  | late => exact absurd (Except.ok.inj hres) (hno rfl)
  | answered ha hm ho ht hreply =>
    rename_i o r
    unfold settle at hres
    split at hres
    · exact absurd (Except.ok.inj hres) (hno rfl)
    · rename_i members hmembers
      obtain ⟨rfl, -⟩ := Prod.mk.inj (Except.ok.inj hres)
      cases hfields : members.fields with
      | error f =>
        simp only [hfields] at hp
        exact absurd hp Bool.false_ne_true
      | ok fields =>
        simp only [hfields] at hp ⊢
        have hsame : ∀ {key : String}, key ∉ ["to", "agentId"] →
            Json.Fields.getD (Json.Fields.merge o.output fields) key =
              Json.Fields.getD (Json.Fields.merge [] fields) key :=
          fun hkey => Json.Fields.getD_merge_congr (orderOf_getD ho hkey)
        have hclaims : (Json.Fields.getD (Json.Fields.merge o.output fields) "paused").isTruthy =
            true := hp
        rw [hsame (by decide)] at hclaims
        show (Json.Fields.getD (Json.Fields.merge o.output fields) "resumeAt").isTruthy = true
        rw [hsame (by decide)]
        exact hP r hreply members fields hmembers hfields hclaims

end Cadence
