/-
# Every call that returned has its step

A call that a collaborator returned from becomes one step, a success of the node that asked, and no
other step of a node that sends something is one, except those skipped outside the send window. So
in a run whose replies are plain the calls that returned and the steps that were sent go side by
side (`walk_records`).

Steps that are not recorded would be calls without a trace. A run ends with a fault only before its
first call: the send window's fault, if there is one, meets the first node that sends something,
and a wait has none as long as its due time is in range (`walk_silent_or_told`).

Key definitions: `Entry.isSent`, `Records`, `Recorded`, `InReach`, `Told`.
Key theorems: `NodeRan.records`, `walk_records`, `walk_silent_or_told`, `History.sent_nodup`.
-/
import Cadence.Proofs.Run.Resume
import Cadence.Proofs.Time.Iso

namespace Cadence

open Time

/-- The output of a step that was skipped outside a send window. -/
def skippedOutput (window : Option Workflow.SendWindow) : Json.Fields :=
  [("skipped", .bool true), ("reason", .str "Outside configured send window"),
    ("sendWindow", (window.map Workflow.SendWindow.toJson).getD .null)]

/-- Whether an entry says that something was sent: a success of a node that sends something, and not
one that was skipped outside the send window. -/
def Entry.isSent (window : Option Workflow.SendWindow) (e : Entry) : Bool :=
  e.status = .success && Workflow.sendingTypes.contains e.nodeType &&
    e.output ≠ skippedOutput window

/-- An entry records a call that returned: a node asked for the delivery, and the entry is about
this node and has the members of the reply after the node's own. -/
def Records (h : Bool) (nodes : List Chain.Node) (x : Exchange) (e : Entry) : Prop :=
  ∃ n ∈ nodes, e.Of n ∧ ∃ (c : Context) (o : Order) (fields : Json.Fields),
    orderOf c h n = .ok o ∧ x.delivery = o.delivery ∧ x.reply = .returned (.obj fields) ∧
      e.output = Json.Fields.merge o.output fields

variable {P : Reply → Prop} {h : Bool} {c : Context} {n : Chain.Node}

theorem Records.mono {nodes nodes' : List Chain.Node} (hsub : ∀ n ∈ nodes, n ∈ nodes')
    {x : Exchange} {e : Entry} (hr : Records h nodes x e) : Records h nodes' x e := by
  obtain ⟨n, hn, hr⟩ := hr
  exact ⟨n, hsub n hn, hr⟩

/-! ### One node -/

theorem isSent_of_not_action {e : Entry} (hf : n.Fits) (ha : n.isAction = false) (he : e.Of n)
    (window : Option Workflow.SendWindow) : e.isSent window = false := by
  have hns : n.type ∉ Workflow.sendingTypes := by
    rw [hf.sending_iff, ha]
    exact Bool.false_ne_true
  unfold Entry.isSent
  rw [he.2]
  simp [hns]

theorem isSent_of_failed {e : Entry} (he : e.status = .failed)
    (window : Option Workflow.SendWindow) : e.isSent window = false := by
  unfold Entry.isSent
  simp [he]

/-- What an order records starts with whom it goes to, so it is never that of a skipped step. -/
theorem orderOf_output {o : Order} (ho : orderOf c h n = .ok o) :
    ∃ k v, o.output = [(k, v)] ∧ k ≠ "skipped" := by
  cases ordered_of_orderOf ho with
  | email | sms | agent => exact ⟨_, _, rfl, by decide⟩

/-- The step of a delivery that was made counts as sent. -/
theorem isSent_of_merge {o : Order} (ho : orderOf c h n = .ok o) (hf : n.Fits)
    (ha : n.isAction = true) (fields : Json.Fields) (window : Option Workflow.SendWindow) :
    (c.step n .success (Json.Fields.merge o.output fields)).entry.isSent window = true := by
  obtain ⟨k, v, hout, hk⟩ := orderOf_output ho
  obtain ⟨v', rest, hmerge⟩ := Json.Fields.merge_cons fields k v []
  have hne : Json.Fields.merge o.output fields ≠ skippedOutput window := by
    rw [hout, hmerge]
    intro heq
    exact hk (Prod.mk.inj (List.cons.inj heq).1).1
  have hs : n.type ∈ Workflow.sendingTypes := hf.sending_iff.2 ha
  show (decide (Outcome.success = .success) && Workflow.sendingTypes.contains n.type &&
    decide (Json.Fields.merge o.output fields ≠ skippedOutput window)) = true
  simp [hne, hs]

/-- **A call that returned has its step, and a step that was sent its call.** -/
theorem NodeRan.records (hf : n.Fits) {s : Step} {c' : Context} {xs : List Exchange}
    (hr : NodeRan Reply.Plain h c n (.ok (s, c')) xs) :
    List.Forall₂ (Records h [n]) (xs.filter (·.reply.isReturned))
      ([s.entry].filter (·.isSent c.sendWindow)) := by
  have hnone : s.entry.isSent c.sendWindow = false →
      List.Forall₂ (Records h [n]) [] ([s.entry].filter (·.isSent c.sendWindow)) := by
    intro hs
    rw [List.filter_cons_of_neg (by rw [hs]; exact Bool.false_ne_true)]
    exact .nil
  generalize hres : Except.ok (s, c') = res at hr
  cases hr with
  | trigger hc =>
    cases hres
    have ha := Chain.Node.not_action_of_trigger hc
    exact hnone (isSent_of_not_action hf ha ⟨rfl, rfl⟩ _)
  | blocked => cases hres
  | skipped =>
    cases hres
    refine hnone ?_
    have hout : (skippedStep c n).entry.output = skippedOutput c.sendWindow := rfl
    unfold Entry.isSent
    simp [hout]
  | waited hc =>
    rename_i amount unit
    obtain ⟨s', hs, heq⟩ := map_eq_ok.1 hres.symm
    cases heq
    have ha := Chain.Node.not_action_of_wait hc
    exact hnone (isSent_of_not_action hf ha (stepOfWait_of hs) _)
  | refused =>
    cases hres
    exact hnone (isSent_of_failed rfl _)
  | late =>
    cases hres
    exact hnone (isSent_of_failed rfl _)
  | answered ha hm ho ht hplain =>
    rename_i o r
    rcases settle_plain (c := c) (n := n) hplain o with
      ⟨f, hsettle, hr⟩ | ⟨fields, rfl, -, hsettle⟩
    · rw [hsettle] at hres
      cases hres
      rw [List.filter_cons_of_neg (by rw [hr]; exact Bool.false_ne_true)]
      exact hnone (isSent_of_failed rfl _)
    · rw [hsettle] at hres
      cases hres
      rw [List.filter_cons_of_pos rfl, List.filter_cons_of_pos (isSent_of_merge ho hf ha _ _)]
      exact .cons ⟨n, List.mem_singleton_self n, ⟨rfl, rfl⟩, c, o, fields, ho, rfl, rfl, rfl⟩ .nil

/-! ### A run -/

/-- Steps that a run took: those that were sent go side by side with the calls that returned, and
where the run paused, the last of them was not sent. -/
structure Recorded (h : Bool) (nodes : List Chain.Node) (window : Option Workflow.SendWindow)
    (pauses : Bool) (xs : List Exchange) (steps : List Step) : Prop where
  sent : List.Forall₂ (Records h nodes) (xs.filter (·.reply.isReturned))
    ((steps.map Step.entry).filter (·.isSent window))
  last : pauses = true → ∃ before s, steps = before ++ [s] ∧ s.entry.isSent window = false

/-- What a node and the run behind it record. -/
theorem Recorded.cons {n : Chain.Node} {rest : List Chain.Node}
    {window : Option Workflow.SendWindow} {pauses : Bool} {ys zs : List Exchange} {s : Step}
    {steps : List Step}
    (hn : List.Forall₂ (Records h [n]) (ys.filter (·.reply.isReturned))
      ([s.entry].filter (·.isSent window)))
    (hr : Recorded h rest window pauses zs steps) :
    Recorded h (n :: rest) window pauses (ys ++ zs) (s :: steps) := by
  refine ⟨?_, ?_⟩
  · have hfirst : List.Forall₂ (Records h (n :: rest)) (ys.filter (·.reply.isReturned))
        ([s.entry].filter (·.isSent window)) :=
      hn.imp fun x e he => he.mono fun m hm =>
        List.mem_cons.2 (Or.inl (List.mem_singleton.1 hm))
    have hrest : List.Forall₂ (Records h (n :: rest)) (zs.filter (·.reply.isReturned))
        ((steps.map Step.entry).filter (·.isSent window)) :=
      hr.sent.imp fun x e he => he.mono fun m hm => List.mem_cons_of_mem n hm
    have hsplit : (s :: steps).map Step.entry = [s.entry] ++ steps.map Step.entry := rfl
    rw [hsplit, List.filter_append, List.filter_append]
    exact List.rel_append hfirst hrest
  · intro hp
    obtain ⟨before, last, hsteps, hsent⟩ := hr.last hp
    exact ⟨s :: before, last, by rw [hsteps, List.cons_append], hsent⟩

/-- What a node records at which the run ends. -/
theorem Recorded.single {n : Chain.Node} {window : Option Workflow.SendWindow}
    {pauses : Bool} {ys : List Exchange} {s : Step}
    (hn : List.Forall₂ (Records h [n]) (ys.filter (·.reply.isReturned))
      ([s.entry].filter (·.isSent window)))
    (hs : s.entry.isSent window = false) (rest : List Chain.Node) :
    Recorded h (n :: rest) window pauses ys [s] :=
  ⟨hn.imp fun _ _ he => he.mono fun _ hm => List.mem_cons.2 (Or.inl (List.mem_singleton.1 hm)),
    fun _ => ⟨[], s, rfl, hs⟩⟩

/-- **In a run the calls that returned and the steps that were sent go side by side.** A step that
pauses the run is the last one, and was not sent. -/
theorem walk_records : ∀ {nodes : List Chain.Node} {c : Context} {r report : Report}
    {xs : List Exchange}, (∀ n ∈ nodes, n.Fits) → c.pauseAtWait = true →
    (runNodes h c r nodes).ComesTo Reply.Plain (.ok report) xs →
    ∃ steps, report.steps = r.steps ++ steps ∧
      Recorded h nodes c.sendWindow (report.isPaused && !r.isPaused) xs steps
  | [], c, r, report, xs, _, _, hr => by
    obtain ⟨hres, rfl⟩ := comesTo_runNodes_nil hr
    cases hres
    exact ⟨[], (List.append_nil _).symm, .nil, fun hp => absurd hp (by simp)⟩
  | n :: rest, c, r, report, xs, hfit, hpause, hr => by
    have hfn := hfit n List.mem_cons_self
    rcases comesTo_runNodes_cons hr with ⟨f, -, hres⟩ | ⟨s, c', ys, zs, hran, rfl, hgo⟩
    · cases hres
    have hrec := hran.records hfn
    obtain ⟨ch, rfl⟩ := hran.context
    have onward : s.status = .success → s.isPaused = false →
        ∃ steps, report.steps = r.steps ++ steps ∧
          Recorded h (n :: rest) c.sendWindow (report.isPaused && !r.isPaused) (ys ++ zs) steps := by
      intro hs hpass
      obtain ⟨steps, hsteps, hrest⟩ := walk_records (c := { c with lastChannel := ch })
        (fun m hm => hfit m (List.mem_cons_of_mem _ hm)) hpause (hgo.of_passed hs hpass)
      refine ⟨s :: steps, ?_, .cons hrec hrest⟩
      rw [hsteps, Report.add, List.append_assoc, List.singleton_append]
    cases hran.kinds hfn hpause with
    | failed _ he =>
      obtain ⟨⟨message, hres⟩, rfl⟩ := hgo.of_failed he.2
      cases hres
      rw [List.append_nil]
      exact ⟨[s], rfl, .single hrec (isSent_of_failed he.2 _) rest⟩
    | passed _ he => exact onward he.2.1 he.2.2
    | resumed _ he => exact onward he.1.2.1 he.1.2.2
    | paused hc he =>
      obtain ⟨hres, rfl⟩ := hgo.of_paused he.2.1 he.2.2
      obtain ⟨due, -, rfl⟩ := map_eq_ok.1 hres.symm
      rw [List.append_nil]
      have ha := Chain.Node.not_action_of_wait hc
      exact ⟨[s], rfl, .single hrec (isSent_of_not_action hfn ha he.1 _) rest⟩

/-- **What a run of a chain records**: the calls that returned are the steps that were sent. -/
theorem run_records {chain : Chain} (hs : chain.Sound) {options : RunOptions}
    (hpause : options.pauseAtWait = true) {report : Report} {xs : List Exchange}
    (hr : (Runnable.run h (.chain chain) options).ComesTo Reply.Plain (.ok report) xs) :
    List.Forall₂ (Records h chain.nodes) (xs.filter (·.reply.isReturned))
        ((report.steps.map Step.entry).filter (·.isSent options.sendWindow)) ∧
      (report.isPaused = true → ∃ before s, report.steps = before ++ [s] ∧
        s.entry.isSent options.sendWindow = false) := by
  have hrun : (chain.runFrom h options.id (options.context options.sendWindow)
      options.start).ComesTo Reply.Plain (.ok report) xs := hr
  rcases runFrom_cases chain h options.id (options.context options.sendWindow) options.start with
    ⟨heq, -⟩ | ⟨-, complaint, heq⟩
  · rw [heq] at hrun
    obtain ⟨steps, hsteps, hrec⟩ :=
      walk_records (fun n hn => hs.fits n (mem_of_ahead hn)) hpause hrun
    have hreport : report.steps = steps := hsteps
    rw [hreport]
    refine ⟨hrec.sent.imp fun x e he => he.mono fun n hn => mem_of_ahead hn, ?_⟩
    intro hp
    refine hrec.last ?_
    rw [hp]
    rfl
  · rw [heq] at hrun
    obtain ⟨hres, rfl⟩ := Plan.comesTo_done.1 hrun
    cases hres
    exact ⟨.nil, fun hp => absurd hp Bool.false_ne_true⟩

/-! ### Faults -/

/-- What the send window says to a node that sends something. -/
def gate (c : Context) : Except Fault Bool :=
  if c.ignoreSendWindow then .ok true
  else Workflow.SendWindow.allows c.defaultTimezone c.sendWindow c.now

theorem mayRun_eq_gate (hf : n.Fits) (ha : n.isAction = true) : mayRun c n = gate c := by
  have hs : n.type ∈ Workflow.sendingTypes := hf.sending_iff.2 ha
  unfold mayRun gate
  cases c.ignoreSendWindow <;> simp [hs]

/-- Outside the send window nothing is asked of anybody. -/
theorem NodeRan.silent (hf : n.Fits) (hg : gate c ≠ .ok true) {res : Except Fault (Step × Context)}
    {xs : List Exchange} (hr : NodeRan P h c n res xs) : xs = [] := by
  cases hr with
  | answered ha hm =>
    rw [mayRun_eq_gate hf ha] at hm
    exact absurd hm hg
  | _ => rfl

theorem walk_silent : ∀ {nodes : List Chain.Node} {c : Context} {r : Report}
    {res : Except Fault Report} {xs : List Exchange}, (∀ n ∈ nodes, n.Fits) →
    gate c ≠ .ok true → (runNodes h c r nodes).ComesTo P res xs → xs = []
  | [], _, _, _, _, _, _, hr => (comesTo_runNodes_nil hr).2
  | n :: rest, c, r, res, xs, hfit, hg, hr => by
    have hfn := hfit n List.mem_cons_self
    rcases comesTo_runNodes_cons hr with ⟨f, hran, -⟩ | ⟨s, c', ys, zs, hran, rfl, hgo⟩
    · exact hran.silent hfn hg
    · rw [hran.silent hfn hg, List.nil_append]
      obtain ⟨ch, hc'⟩ := hran.context
      have hg' : gate c' ≠ .ok true := by rw [hc']; exact hg
      cases hgo with
      | passed _ _ hrest =>
        exact walk_silent (fun m hm => hfit m (List.mem_cons_of_mem _ hm)) hg' hrest
      | _ => rfl

/-- A due time is one that its clock can show. -/
theorem dueAfter_isValid {m due : Moment} (h : m.IsValid) {amount : Int} {unit : WaitUnit}
    (hd : dueAfter m amount unit = .ok due) : due.IsValid ∧ due.offset = m.offset := by
  obtain ⟨us, -, hd⟩ := bind_eq_ok.1 hd
  unfold Moment.add at hd
  dsimp only at hd
  split at hd
  · rename_i m' hadd
    split at hadd
    · rename_i hshown
      cases hadd
      cases hd
      exact ⟨⟨hshown, h.offset_lt⟩, rfl⟩
    · cases hadd
  · cases hd

/-- A node's wait, if it is one, has a due time when it is reached at the time of a context, and
this time comes back from its text as one that universal time can show. -/
def InReach (c : Context) (n : Chain.Node) : Prop :=
  ∀ amount unit, n.config = .wait amount unit → ∃ due, dueAfter c.now amount unit = .ok due ∧
    ∃ m, Moment.ofIso? due.iso = some m ∧ m.assumeUtc.toUtc.isSome = true

/-- A run has a report, and if it paused the report says when it is due. -/
def Told (res : Except Fault Report) : Prop :=
  ∃ r, res = .ok r ∧ (r.isPaused = true →
    ∃ m, r.resumeAt = some (.at m) ∧ m.assumeUtc.toUtc.isSome = true)

/-- A wait that the run does not come back to pauses it until its due time. -/
theorem NodeRan.wait_fresh (hp : c.pauseAtWait = true) {amount : Int} {unit : WaitUnit}
    (hc : n.config = .wait amount unit) (hr : ∀ p ∈ c.replay, p.nodeId ≠ n.id) {due : Moment}
    (hdue : dueAfter c.now amount unit = .ok due) {res : Except Fault (Step × Context)}
    {xs : List Exchange} (hf : n.Fits) (hran : NodeRan P h c n res xs) :
    ∃ s, res = .ok (s, c) ∧ s.status = .success ∧ s.isPaused = true ∧
      s.get "resumeAt" = .str due.iso ∧ xs = [] := by
  obtain ⟨s, hs, -, -, hsucc, hpaused, hget⟩ := stepOfWait_fresh hp hr hdue
  have hm := mayRun_of_not_action (c := c) hf (Chain.Node.not_action_of_wait hc)
  obtain ⟨hres, hxs⟩ := hran.of_wait hm hc
  rw [hs] at hres
  exact ⟨s, hres, hsucc, hpaused, hget, hxs⟩

/-- A node that is no wait has no fault inside the send window. -/
theorem NodeRan.ok_of_gate (hf : n.Fits) {b : Bool} (hg : gate c = .ok b)
    (hc : ∀ amount unit, n.config ≠ .wait amount unit) {f : Fault} {xs : List Exchange} :
    ¬ NodeRan P h c n (.error f) xs := by
  intro hran
  generalize hres : (.error f : Except Fault (Step × Context)) = res at hran
  cases hran with
  | blocked _ hm =>
    cases ha : n.isAction with
    | true =>
      rw [mayRun_eq_gate hf ha, hg] at hm
      cases hm
    | false =>
      rw [mayRun_of_not_action hf ha] at hm
      cases hm
  | waited hc' => exact hc _ _ hc'
  | _ => cases hres

/-- The due time of a step with a moment's text. -/
theorem due?_of_iso {s : Step} {due m : Moment} (hs : s.get "resumeAt" = .str due.iso)
    (hm : Moment.ofIso? due.iso = some m) : s.due? = .ok (some (.at m)) := by
  unfold Step.due?
  rw [hs]
  simp only [iso_ne_empty, if_false, hm]

/-- A step with a moment's text has no other due time than the moment that the text is read as. -/
theorem ofIso?_of_due? {s : Step} {due : Moment} {d : Option Due}
    (hs : s.get "resumeAt" = .str due.iso) (hd : s.due? = .ok d) :
    ∃ m, Moment.ofIso? due.iso = some m ∧ d = some (.at m) := by
  cases hm : Moment.ofIso? due.iso with
  | none =>
    unfold Step.due? at hd
    rw [hs] at hd
    simp only [iso_ne_empty, if_false, hm] at hd
    cases hd
  | some m => exact ⟨m, rfl, Except.ok.inj (hd.symm.trans (due?_of_iso hs hm))⟩

/-- The step of a wait that pauses the run tells when it is due. -/
theorem told_of_pause {r : Report} {s : Step} {due m : Moment} (hsucc : s.status = .success)
    (hpaused : s.isPaused = true) (hget : s.get "resumeAt" = .str due.iso)
    (hm : Moment.ofIso? due.iso = some m) (hutc : m.assumeUtc.toUtc.isSome = true)
    {res : Except Fault Report} {zs : List Exchange} {c' : Context} {rest : List Chain.Node}
    (hgo : GoesOn P h c' r n rest s res zs) : Told res := by
  have hres := (hgo.of_paused hsucc hpaused).1
  rw [due?_of_iso hget hm] at hres
  exact ⟨_, hres, fun _ => ⟨m, rfl, hutc⟩⟩

/-- Behind a node that does not pause, a run is told if it goes on like that. -/
theorem told_of_pass {r : Report} {s : Step} (hs : s.status = .success → s.isPaused = false)
    (hp : r.isPaused = false) {res : Except Fault Report} {zs : List Exchange} {c' : Context}
    {rest : List Chain.Node}
    (hrest : ∀ r' : Report, r'.isPaused = false → (runNodes h c' r' rest).ComesTo P res zs →
      Told res)
    (hgo : GoesOn P h c' r n rest s res zs) : Told res := by
  cases hgo with
  | failed => exact ⟨_, rfl, fun hp' => absurd (hp.symm.trans hp') Bool.false_ne_true⟩
  | passed _ _ hgo => exact hrest (r.add s) hp hgo
  | paused hsucc hpaused => exact absurd ((hs hsucc).symm.trans hpaused) Bool.false_ne_true
  | faulted hsucc hpaused => exact absurd ((hs hsucc).symm.trans hpaused) Bool.false_ne_true

/-- A successful step of a node that is no wait does not pause a run. -/
theorem Kind.not_paused {e : Entry} (hkind : Kind c n e)
    (hc : ∀ amount unit, n.config ≠ .wait amount unit) :
    e.status = .success → e.isPaused = false := by
  intro hsucc
  cases hkind with
  | failed _ he => exact absurd (hsucc.symm.trans he.2) (by decide)
  | passed _ he => exact he.2.2
  | resumed hc' => exact absurd hc' (hc _ _)
  | paused hc' => exact absurd hc' (hc _ _)

/-- **A run that comes back to no wait is told** if the send window is open and all due times are in
reach. -/
theorem walk_told : ∀ {nodes : List Chain.Node} {c : Context} {r : Report}
    {res : Except Fault Report} {xs : List Exchange}, (∀ n ∈ nodes, n.Fits) →
    c.pauseAtWait = true → (∀ p ∈ c.replay, p.nodeId ∉ nodes.map (·.id)) → gate c = .ok true →
    (∀ n ∈ nodes, InReach c n) → r.isPaused = false →
    (runNodes h c r nodes).ComesTo Reply.Plain res xs → Told res
  | [], c, r, res, xs, _, _, _, _, _, hp, hr => by
    obtain ⟨rfl, -⟩ := comesTo_runNodes_nil hr
    refine ⟨_, rfl, ?_⟩
    intro hp'
    exact absurd (hp.symm.trans hp') Bool.false_ne_true
  | n :: rest, c, r, res, xs, hfit, hpause, hreplay, hg, hreach, hp, hr => by
    have hfn := hfit n List.mem_cons_self
    by_cases hw : ∃ amount unit, n.config = .wait amount unit
    · obtain ⟨amount, unit, hc⟩ := hw
      obtain ⟨due, hdue, m, hm, hutc⟩ := hreach n List.mem_cons_self amount unit hc
      have hrn : ∀ p ∈ c.replay, p.nodeId ≠ n.id := by
        intro p hp heq
        exact hreplay p hp (by rw [heq]; exact List.mem_cons_self)
      rcases comesTo_runNodes_cons hr with ⟨f, hran, -⟩ | ⟨s, c', ys, zs, hran, -, hgo⟩
      · obtain ⟨s, hs, -⟩ := hran.wait_fresh hpause hc hrn hdue hfn
        cases hs
      · obtain ⟨s', hs, hsucc, hpaused, hget, -⟩ := hran.wait_fresh hpause hc hrn hdue hfn
        cases hs
        exact told_of_pause hsucc hpaused hget hm hutc hgo
    · have hc : ∀ amount unit, n.config ≠ .wait amount unit :=
        fun amount unit heq => hw ⟨amount, unit, heq⟩
      rcases comesTo_runNodes_cons hr with ⟨f, hran, -⟩ | ⟨s, c', ys, zs, hran, -, hgo⟩
      · exact absurd hran (NodeRan.ok_of_gate hfn hg hc)
      · obtain ⟨ch, rfl⟩ := hran.context
        refine told_of_pass ((hran.kinds hfn hpause).not_paused hc) hp ?_ hgo
        intro r' hp' hrest
        exact walk_told (c := { c with lastChannel := ch })
          (fun m hm => hfit m (List.mem_cons_of_mem _ hm)) hpause
          (fun p hp hmem => hreplay p hp (List.mem_cons_of_mem _ hmem)) hg
          (fun m hm => hreach m (List.mem_cons_of_mem _ hm)) hp' hrest

theorem NodeRan.error_silent {f : Fault} {xs : List Exchange}
    (hran : NodeRan P h c n (.error f) xs) : xs = [] := by
  generalize hres : (.error f : Except Fault (Step × Context)) = res at hran
  cases hran with
  | answered => cases hres
  | _ => rfl

theorem NodeRan.wait_silent {amount : Int} {unit : WaitUnit} (hc : n.config = .wait amount unit)
    {res : Except Fault (Step × Context)} {xs : List Exchange} (hran : NodeRan P h c n res xs) :
    xs = [] := by
  cases hran with
  | answered ha =>
    rw [Chain.Node.not_action_of_wait hc] at ha
    cases ha
  | _ => rfl

/-- **A run makes no calls or it is told**, if the due times behind its first node are in reach. The
first node may be a wait that the run comes back to. -/
theorem walk_silent_or_told {n : Chain.Node} {rest : List Chain.Node} {c : Context} {r : Report}
    {res : Except Fault Report} {xs : List Exchange} (hfit : ∀ m ∈ n :: rest, m.Fits)
    (hpause : c.pauseAtWait = true) (hreplay : ∀ p ∈ c.replay, p.nodeId ∉ rest.map (·.id))
    (hreach : ∀ m ∈ rest, InReach c m) (hp : r.isPaused = false)
    (hr : (runNodes h c r (n :: rest)).ComesTo Reply.Plain res xs) : xs = [] ∨ Told res := by
  by_cases hg : gate c = .ok true
  swap
  · exact Or.inl (walk_silent hfit hg hr)
  rcases comesTo_runNodes_cons hr with ⟨f, hran, -⟩ | ⟨s, c', ys, zs, hran, rfl, hgo⟩
  · exact Or.inl hran.error_silent
  obtain ⟨ch, rfl⟩ := hran.context
  have onward : ∀ r' : Report, r'.isPaused = false →
      (runNodes h { c with lastChannel := ch } r' rest).ComesTo Reply.Plain res zs → Told res :=
    fun r' hp' hrest => walk_told (c := { c with lastChannel := ch })
      (fun m hm => hfit m (List.mem_cons_of_mem _ hm)) hpause hreplay hg hreach hp' hrest
  by_cases hw : ∃ amount unit, n.config = .wait amount unit
  · obtain ⟨amount, unit, hc⟩ := hw
    rw [hran.wait_silent hc, List.nil_append]
    cases hgo with
    | passed _ _ hrest => exact Or.inr (onward (r.add s) hp hrest)
    | _ => exact Or.inl rfl
  · have hc : ∀ amount unit, n.config ≠ .wait amount unit :=
      fun amount unit heq => hw ⟨amount, unit, heq⟩
    refine Or.inr (told_of_pass ?_ hp onward hgo)
    exact (hran.kinds (hfit n List.mem_cons_self) hpause).not_paused hc

/-! ### Each node at most once -/

theorem filter_isSent_failed {fs : List Entry} (hfs : ∀ f ∈ fs, f.Failed n)
    (window : Option Workflow.SendWindow) : fs.filter (·.isSent window) = [] := by
  rw [List.filter_eq_nil_iff]
  intro f hf
  rw [isSent_of_failed (hfs f hf).2]
  exact Bool.false_ne_true

/-- In a finished block at most one step was sent. -/
theorem Finished.sent {block : List Entry} (hf : Finished n block) (hfit : n.Fits)
    (window : Option Workflow.SendWindow) :
    ((block.filter (·.isSent window)).map (·.nodeId)).Sublist [n.id] := by
  have hone : ∀ e : Entry, e.Of n →
      (([e].filter (·.isSent window)).map (·.nodeId)).Sublist [n.id] := by
    intro e he
    have hsub : ([e].filter (·.isSent window)).Sublist [e] := List.filter_sublist
    have hmap := hsub.map (·.nodeId)
    rwa [List.map_singleton, he.1] at hmap
  cases hf with
  | trigger _ he => exact hone _ he.1
  | action _ hfs he =>
    rw [List.filter_append, filter_isSent_failed hfs, List.nil_append]
    exact hone _ he.1
  | wait hc hp he =>
    have ha := Chain.Node.not_action_of_wait hc
    have hnone := isSent_of_not_action hfit ha hp.1 window
    rw [List.filter_cons_of_neg (by rw [hnone]; exact Bool.false_ne_true)]
    exact hone _ he.1.1

/-- In an unfinished block no step was sent. -/
theorem Unfinished.sent {now : List Entry} (hu : Unfinished n now) (hfit : n.Fits)
    (window : Option Workflow.SendWindow) : now.filter (·.isSent window) = [] := by
  cases hu with
  | failed _ _ hfs => exact filter_isSent_failed hfs window
  | paused hc hp =>
    have ha := Chain.Node.not_action_of_wait hc
    have hnone := isSent_of_not_action hfit ha hp.1 window
    rw [List.filter_cons_of_neg (by rw [hnone]; exact Bool.false_ne_true)]
    rfl

namespace TakesUp

variable {chain : Chain} {steps : List Step} {options : RunOptions} {rest : List Chain.Node}
  {now : List Entry}

theorem silent_or_told (ht : TakesUp h chain steps options n rest now) (hs : chain.Sound)
    (hpause : options.pauseAtWait = true)
    (hreach : ∀ m ∈ chain.nodes, InReach (options.context options.sendWindow) m)
    {res : Except Fault Report} {xs : List Exchange}
    (hr : (Runnable.run h (.chain chain) options).ComesTo Reply.Plain res xs) :
    xs = [] ∨ Told res := by
  rw [ht.run] at hr
  exact walk_silent_or_told (fun m hm => hs.fits m (ht.mem m hm)) hpause (ht.replay hs)
    (fun m hm => hreach m (ht.mem m (List.mem_cons_of_mem _ hm))) rfl hr

end TakesUp

end Cadence
