/-
# Pauses that replies claim

A step records the members of the reply to its delivery, and whether a step is a pause is read off
what it records. So a delivery whose reply has a truthy member `paused` counts as a pause
(`NodeRan.claimed`): the run ends there, with a fault if it cannot make out until when, and the next
run starts at the same node and sends the message again (`claimed_mail_is_sent_again`).

If nothing else is in the way of a run, this is the only way in which it can fall short of pausing
at waits alone (`pauses_only_at_waits_iff`). What is in its way does not depend on the replies: a
due time after all times, a send window without a time zone, or the moment of a pause that cannot be
told from the clock's (`Context.Clears`).

Key definitions: `Context.Clears`, `Chain.left`, `Report.PausesAtWaits`.
Key theorems: `NodeRan.claimed`, `walk_claimed`, `NodeRan.clear`, `resumption_left`,
`run_pausesAtWaits`, `pauses_only_at_waits_iff`.
-/
import Cadence.Proofs.Run.Stranded
import Cadence.Proofs.Run.Waits

namespace Cadence

open Time

variable {P : Reply → Prop} {h : Bool} {c : Context} {n : Chain.Node}

/-! ### Replies that claim a pause -/

/-- **A delivery whose reply claims a pause is a pause of the run**, at a node that is no wait. -/
theorem NodeRan.claimed {res : Except Fault (Step × Context)} {xs : List Exchange}
    (hr : NodeRan Reply.IsObject h c n res xs) (hx : ∃ x ∈ xs, ¬ x.reply.Plain) :
    n.isAction = true ∧ ∃ s c', res = .ok (s, c') ∧ s.nodeId = n.id ∧ s.status = .success ∧
      s.isPaused = true := by
  obtain ⟨x, hx, hclaims⟩ := hx
  cases hr with
  | trigger | blocked | skipped | waited | refused | late => exact absurd hx List.not_mem_nil
  | answered ha hm ho ht hobject =>
    rename_i o r
    rw [List.mem_singleton.1 hx] at hclaims
    obtain ⟨fields, value, rfl, hkeys, hmem, hgiven⟩ := hobject.claim hclaims
    refine ⟨ha, _, _, congrArg Except.ok (settle_obj o fields), rfl, rfl, ?_⟩
    show (Json.Fields.getD (Json.Fields.merge o.output fields) "paused").isTruthy = true
    rw [Json.Fields.getD_merge hkeys hmem]
    exact hgiven

/-- **A run with a reply that claims a pause** has no report, or one of a pause at a node that sends
something. By recursion on the nodes: the reply is one to the first, or to a node behind it. -/
theorem walk_claimed : ∀ {nodes : List Chain.Node} {c : Context} {r : Report}
    {res : Except Fault Report} {xs : List Exchange},
    (runNodes h c r nodes).ComesTo Reply.IsObject res xs → (∃ x ∈ xs, ¬ x.reply.Plain) →
    (∃ f, res = .error f) ∨ ∃ report s, ∃ n ∈ nodes, res = .ok report ∧ report.isPaused = true ∧
      report.steps.getLast? = some s ∧ s.nodeId = n.id ∧ n.isAction = true
  | [], c, r, res, xs, hr, hx => by
    obtain ⟨-, rfl⟩ := comesTo_runNodes_nil hr
    obtain ⟨x, hx, -⟩ := hx
    exact absurd hx List.not_mem_nil
  | n :: rest, c, r, res, xs, hr, ⟨x, hx, hclaims⟩ => by
    rcases comesTo_runNodes_cons hr with ⟨f, -, rfl⟩ | ⟨s, c', ys, zs, hran, rfl, hgo⟩
    · exact Or.inl ⟨f, rfl⟩
    rcases List.mem_append.1 hx with hx | hx
    · obtain ⟨ha, s', c'', heq, hid, hsucc, hpaused⟩ := hran.claimed ⟨x, hx, hclaims⟩
      cases heq
      obtain ⟨rfl, -⟩ := hgo.of_paused hsucc hpaused
      cases hdue : s.due? with
      | error f => exact Or.inl ⟨f, rfl⟩
      | ok due =>
        exact Or.inr ⟨_, s, n, List.mem_cons_self, rfl, rfl, List.getLast?_concat, hid, ha⟩
    · cases hgo with
      | failed | paused | faulted => exact absurd hx List.not_mem_nil
      | passed hsucc hpass hrest =>
        rcases walk_claimed hrest ⟨x, hx, hclaims⟩ with hfault | ⟨report, s', m, hm, hres⟩
        · exact Or.inl hfault
        · exact Or.inr ⟨report, s', m, List.mem_cons_of_mem _ hm, hres⟩

/-! ### Runs with nothing in the way -/

/-- Nothing is in the way of a node, whatever the replies: the send window says whether it may run,
a wait that begins has an end, and one that the run comes back to is due before or after now. -/
structure Context.Clears (c : Context) (n : Chain.Node) : Prop where
  now : c.now.IsValid
  window : ∃ b, mayRun c n = .ok b
  ends : ∀ amount unit, n.config = .wait amount unit → c.pauseAtWait = true →
    (∀ p ∈ c.replay, p.nodeId ≠ n.id) → ∃ due, dueAfter c.now amount unit = .ok due
  back : ∀ p ∈ c.replay, p.nodeId = n.id → ∃ m : Moment, p.due = .at m ∧ m.IsValid ∧
    (m.le? c.now).isSome = true

theorem Context.Clears.withLast (hc : c.Clears n) (last : Option String) :
    (c.withLast last).Clears n :=
  ⟨hc.now, hc.window, hc.ends, hc.back⟩

/-- A wait with nothing in its way has a step, and one that says until when if it pauses the run. -/
theorem stepOfWait_clear (hc : c.Clears n) {amount : Int} {unit : WaitUnit}
    (hconf : n.config = .wait amount unit) : ∃ s, stepOfWait c n amount unit = .ok s ∧
      (s.isPaused = true → c.pauseAtWait = true ∧ ∃ due, s.due? = .ok due) := by
  cases hpause : c.pauseAtWait with
  | false =>
    unfold stepOfWait
    simp only [hpause, Bool.not_false, if_true]
    exact ⟨_, rfl, fun hp => absurd hp Bool.false_ne_true⟩
  | true =>
    by_cases hback : ∀ p ∈ c.replay, p.nodeId ≠ n.id
    · obtain ⟨due, hdue⟩ := hc.ends amount unit hconf hpause hback
      obtain ⟨s, hs, -, -, -, -, hget⟩ := stepOfWait_fresh hpause hback hdue
      have hiso := ofIso?_iso (dueAfter_isValid hc.now hdue).1
      exact ⟨s, hs, fun _ => ⟨rfl, _, due?_of_iso hget hiso⟩⟩
    · push Not at hback
      obtain ⟨p, hp, hid⟩ := hback
      obtain ⟨m, hm, hvalid, hcompares⟩ := hc.back p hp hid
      have hreplay : c.replay = some ⟨n.id, .at m⟩ := by
        rw [Option.mem_def.1 hp, ← hm, ← hid]
      obtain ⟨before, hbefore⟩ := Option.isSome_iff_exists.1 hcompares
      cases before with
      | false =>
        obtain ⟨s, hs, -, -, -, hget⟩ := stepOfWait_again hpause hreplay hbefore amount unit
        exact ⟨s, hs, fun _ => ⟨rfl, _, due?_of_iso hget (ofIso?_iso hvalid)⟩⟩
      | true =>
        unfold stepOfWait
        simp only [hpause, Bool.not_true, Bool.false_eq_true, if_false, hreplay, Option.filter,
          decide_true, if_true, hbefore]
        exact ⟨_, rfl, fun hp => absurd hp Bool.false_ne_true⟩

/-- **A node with nothing in its way has a step**, and among plain replies the step is a pause only
if the node is a wait. -/
theorem NodeRan.clear (hc : c.Clears n) {res : Except Fault (Step × Context)} {xs : List Exchange}
    (hr : NodeRan Reply.Plain h c n res xs) : ∃ s c', res = .ok (s, c') ∧
      (s.isPaused = true → c.pauseAtWait = true ∧
        (∃ amount unit, n.config = .wait amount unit) ∧ ∃ due, s.due? = .ok due) := by
  cases hr with
  | trigger => exact ⟨_, _, rfl, fun hp => absurd hp Bool.false_ne_true⟩
  | skipped => exact ⟨_, _, rfl, fun hp => absurd hp Bool.false_ne_true⟩
  | refused => exact ⟨_, _, rfl, fun hp => absurd hp Bool.false_ne_true⟩
  | late => exact ⟨_, _, rfl, fun hp => absurd hp Bool.false_ne_true⟩
  | blocked _ hm =>
    obtain ⟨b, hb⟩ := hc.window
    rw [hm] at hb
    cases hb
  | waited hconf =>
    obtain ⟨s, hs, hpaused⟩ := stepOfWait_clear hc hconf
    rw [hs]
    refine ⟨s, c, rfl, fun hp => ?_⟩
    obtain ⟨hpause, hdue⟩ := hpaused hp
    exact ⟨hpause, ⟨_, _, hconf⟩, hdue⟩
  | answered ha hm ho ht hplain =>
    rename_i o r
    rcases settle_plain (c := c) (n := n) hplain o with ⟨f, hsettle, -⟩ | ⟨fields, -, hd, hsettle⟩
    · exact ⟨_, _, congrArg Except.ok hsettle, fun hp => absurd hp Bool.false_ne_true⟩
    · have hno : (Json.Fields.getD (Json.Fields.merge o.output fields) "paused").isTruthy = false :=
        (Json.Fields.denies_merge (orderOf_denies ho) hd).getD
      exact ⟨_, _, congrArg Except.ok hsettle, fun hp => absurd (hno.symm.trans hp)
        Bool.false_ne_true⟩

/-- **A run with nothing in the way of its nodes has a report** among plain replies. By recursion on
the nodes: behind a step that passed, the run is one over the rest. -/
theorem walk_clear : ∀ {nodes : List Chain.Node} (last : Option String) {r : Report}
    {res : Except Fault Report} {xs : List Exchange}, (∀ n ∈ nodes, c.Clears n) →
    (runNodes h (c.withLast last) r nodes).ComesTo Reply.Plain res xs → ∃ report, res = .ok report
  | [], last, r, res, xs, _, hr => by
    obtain ⟨rfl, -⟩ := comesTo_runNodes_nil hr
    exact ⟨_, rfl⟩
  | n :: rest, last, r, res, xs, hclear, hr => by
    have hc : (c.withLast last).Clears n := (hclear n List.mem_cons_self).withLast last
    rcases comesTo_runNodes_cons hr with ⟨f, hran, -⟩ | ⟨s, c', ys, zs, hran, -, hgo⟩
    · obtain ⟨s, c', hres, -⟩ := hran.clear hc
      cases hres
    obtain ⟨s', c'', heq, hpaused⟩ := hran.clear hc
    cases heq
    cases hgo with
    | failed => exact ⟨_, rfl⟩
    | paused => exact ⟨_, rfl⟩
    | faulted _ hp hfault =>
      obtain ⟨-, -, due, hdue⟩ := hpaused hp
      rw [hfault] at hdue
      cases hdue
    | passed _ _ hrest =>
      obtain ⟨ch, rfl⟩ := hran.context
      exact walk_clear ch (fun m hm => hclear m (List.mem_cons_of_mem _ hm)) hrest

/-! ### What is left for the next run -/

/-- The nodes that are left for the next run to go over; there are none if the chain is complete. -/
def Chain.left (chain : Chain) (p : Resumption) : List Chain.Node :=
  p.node.elim [] fun id => chain.ahead (some id)

section
variable {chain : Chain} {done rest : List Chain.Node}

/-- The nodes ahead of a node are the node and those behind it. -/
theorem ahead_append (hnd : (chain.nodes.map (·.id)).Nodup)
    (hn : chain.nodes = done ++ n :: rest) :
    chain.ahead (some n.id) = n :: rest := by
  have hdone : ∀ m ∈ done, decide (m.id ≠ n.id) = true := fun m hm =>
    decide_eq_true ((split_ids hnd hn).1 m hm n List.mem_cons_self)
  unfold Chain.ahead
  dsimp only
  rw [hn, List.dropWhile_append_of_pos hdone, List.dropWhile_cons_of_neg (by simp)]

/-- **What is left behind the last step**: its node and those behind, or only those behind if the
step has passed. -/
theorem resumption_left (hs : chain.Sound) (hn : chain.nodes = done ++ n :: rest)
    {steps : List Step} {s : Step} (hlast : steps.getLast? = some s) (hid : s.nodeId = n.id)
    (hdue : s.isPaused = true → ∃ due, s.due? = .ok due) : ∃ p, resumption chain steps = .ok p ∧
      (s.Passed ∧ chain.left p = rest ∨ ¬ s.Passed ∧ chain.left p = n :: rest) := by
  have hhere : chain.ahead (some s.nodeId) = n :: rest := by rw [hid, ahead_append hs.nodup hn]
  cases hstatus : s.status with
  | failed =>
    refine ⟨_, resumption_of_failed hlast hstatus, Or.inr ⟨fun hp => ?_, hhere⟩⟩
    exact absurd (hp.1.symm.trans hstatus) (by decide)
  | success =>
    cases hpaused : s.isPaused with
    | true =>
      obtain ⟨due, hdue⟩ := hdue hpaused
      have hres : resumption chain steps = _ := resumption_of_paused hlast hstatus hpaused
      rw [hdue] at hres
      refine ⟨_, hres, Or.inr ⟨fun hp => ?_, hhere⟩⟩
      exact absurd (hp.2.symm.trans hpaused) Bool.false_ne_true
    | false =>
      have hindex : (chain.indexOf? s.nodeId).isSome = true := by
        rw [hid, indexOf?_append hs.nodup hn]
        rfl
      refine ⟨_, resumption_of_passed hlast hstatus hpaused hindex, Or.inl ⟨⟨hstatus, hpaused⟩, ?_⟩⟩
      rw [hid, after?_append hs.nodup hn]
      cases rest with
      | nil => rfl
      | cons next rest' =>
        rw [← List.singleton_append, ← List.append_assoc] at hn
        exact ahead_append hs.nodup hn

end

/-! ### Reports that pause at waits only -/

/-- A report pauses only at a wait of a run that is to pause at waits, and whatever steps there were
before it, the next run is known and does not go over a node again that has sent something. -/
structure Report.PausesAtWaits (chain : Chain) (o : RunOptions) (report : Report) : Prop where
  pause : report.isPaused = true → o.pauseAtWait = true ∧ ∃ s, report.steps.getLast? = some s ∧
    ∃ n ∈ chain.nodes, s.nodeId = n.id ∧ ∃ amount unit, n.config = .wait amount unit
  next : report.steps ≠ [] → ∀ before, ∃ p, resumption chain (before ++ report.steps) = .ok p ∧
    ∀ s ∈ report.steps, s.status = .success → ∀ n ∈ chain.left p, s.nodeId = n.id →
      n.isAction = false

section
variable {chain : Chain} {o : RunOptions}

/-- The last step of a report is one of a node ahead; the others are those of nodes before it. -/
theorem run_split {report : Report} {xs : List Exchange} {s : Step}
    (hr : (Runnable.run h (.chain chain) o).ComesTo P (.ok report) xs)
    (hlast : report.steps.getLast? = some s) : ∃ done, ∃ n ∈ chain.ahead o.start, ∃ rest,
      chain.nodes = done ++ n :: rest ∧ Ran P h (o.context o.sendWindow) n s ∧
        ∀ s' ∈ report.steps, s' = s ∨ ∃ m ∈ done, s'.nodeId = m.id := by
  obtain ⟨steps, hsteps⟩ := List.getLast?_eq_some_iff.1 hlast
  have hend : report.steps[steps.length]? = some s := by
    rw [hsteps]
    exact List.getElem?_concat_length
  obtain ⟨n, hn, hran⟩ := run_ran hr hend
  obtain ⟨before, hahead⟩ := ahead_suffix chain o.start
  obtain ⟨hlt, rfl⟩ := List.getElem?_eq_some_iff.1 hn
  refine ⟨before ++ (chain.ahead o.start).take steps.length, _, List.getElem_mem hlt,
    (chain.ahead o.start).drop (steps.length + 1), ?_, hran, ?_⟩
  · rw [List.append_assoc, List.getElem_cons_drop, List.take_append_drop, hahead]
  · intro s' hs'
    rw [hsteps] at hs'
    rcases List.mem_append.1 hs' with hs' | hs'
    · obtain ⟨m, hm, hget⟩ := List.getElem_of_mem hs'
      have hat : report.steps[m]? = some s' := by
        rw [hsteps, List.getElem?_append_left hm, List.getElem?_eq_getElem hm, hget]
      obtain ⟨n', hn', hran'⟩ := run_ran hr hat
      refine Or.inr ⟨n', List.mem_append_right _ ?_, hran'.nodeId⟩
      exact List.mem_of_getElem? ((List.getElem?_take_of_lt hm).trans hn')
    · exact Or.inl (List.mem_singleton.1 hs')

/-- A step of a clear node, among plain replies, is a pause only if the node is a wait. -/
theorem Ran.clear {s : Step} (hran : Ran Reply.Plain h c n s) (hc : c.Clears n)
    (hp : s.isPaused = true) : c.pauseAtWait = true ∧
      (∃ amount unit, n.config = .wait amount unit) ∧ ∃ due, s.due? = .ok due := by
  obtain ⟨ch, c', ys, hran⟩ := hran
  obtain ⟨s', c'', heq, hpaused⟩ := hran.clear (hc.withLast ch)
  cases heq
  exact hpaused hp

/-- **Among plain replies a report pauses only at waits**, if nothing is in the way of the run. -/
theorem run_pausesAtWaits (hs : chain.Sound)
    (hc : ∀ n ∈ chain.ahead o.start, (o.context o.sendWindow).Clears n) {report : Report}
    {xs : List Exchange}
    (hr : (Runnable.run h (.chain chain) o).ComesTo Reply.Plain (.ok report) xs) :
    report.PausesAtWaits chain o := by
  constructor
  · intro hpaused
    rcases run_closes hr with ⟨-, hno, -⟩ | ⟨nodes, -, -, -, hcloses⟩
    · exact absurd (hno.symm.trans hpaused) Bool.false_ne_true
    obtain ⟨s, -, -, -, -, hlast, -, hp, -⟩ := hcloses.pause hpaused
    obtain ⟨done, n, hn, rest, -, hran, -⟩ := run_split hr hlast
    obtain ⟨hpause, hwait, -⟩ := hran.clear (hc n hn) hp
    exact ⟨hpause, s, hlast, n, mem_of_ahead hn, hran.nodeId, hwait⟩
  · intro hne before
    have hlast := List.getLast?_eq_some_getLast hne
    generalize report.steps.getLast hne = s at hlast
    obtain ⟨done, n, hn, rest, hnodes, hran, hsplit⟩ := run_split hr hlast
    have hlast' : (before ++ report.steps).getLast? = some s := by
      rw [List.getLast?_append, hlast, Option.some_or]
    obtain ⟨p, hp, hleft⟩ := resumption_left hs hnodes hlast' hran.nodeId
      fun hpaused => (hran.clear (hc n hn) hpaused).2.2
    refine ⟨p, hp, fun s' hs' hsucc m hm hid => ?_⟩
    obtain ⟨hbefore, hbehind⟩ := split_ids hs.nodup hnodes
    have hm' : m ∈ n :: rest := by
      rcases hleft with ⟨-, hleft⟩ | ⟨-, hleft⟩ <;> rw [hleft] at hm
      · exact List.mem_cons_of_mem _ hm
      · exact hm
    rcases hsplit s' hs' with rfl | ⟨b, hb, hbid⟩
    · have hnot : m ∉ rest := fun hrest =>
        hbehind m hrest (hid.symm.trans hran.nodeId)
      obtain rfl : m = n := (List.mem_cons.1 hm').resolve_right hnot
      rcases hleft with ⟨-, hleft⟩ | ⟨hstays, -⟩
      · rw [hleft] at hm
        exact absurd hm hnot
      · have hpaused : s'.isPaused = true := by
          by_contra hno
          exact hstays ⟨hsucc, by simpa using hno⟩
        obtain ⟨-, ⟨amount, unit, hconf⟩, -⟩ := hran.clear (hc m hn) hpaused
        exact Chain.Node.not_action_of_wait hconf
    · exact absurd (hbid.symm.trans hid) (hbefore b hb m hm')

/-- **A run pauses only at waits exactly if no reply claims a pause**, with nothing else in its way:
it has a report that says so, wherever it starts and whatever the objects are that collaborators
return. -/
theorem pauses_only_at_waits_iff {d : Workflow.Definition} (hd : d.linearize = .ok chain)
    (hc : ∀ n ∈ chain.ahead o.start, (o.context o.sendWindow).Clears n)
    {res : Except Fault Report} {xs : List Exchange}
    (hr : (Runnable.run h (.chain chain) o).ComesTo Reply.IsObject res xs) :
    (∀ x ∈ xs, x.reply.Plain) ↔ ∃ report, res = .ok report ∧ report.PausesAtWaits chain o := by
  have hs := Workflow.linearize_sound hd
  have hcases := runFrom_cases chain h o.id (o.context o.sendWindow) o.start
  constructor
  · intro hplain
    have hr' := hr.of_replies hplain
    have hreport : ∃ report, res = .ok report := by
      have hrun : (chain.runFrom h o.id (o.context o.sendWindow) o.start).ComesTo Reply.Plain res
        xs := hr'
      rcases hcases with ⟨heq, -⟩ | ⟨-, complaint, heq⟩ <;> rw [heq] at hrun
      · exact walk_clear (o.context o.sendWindow).lastChannel hc hrun
      · exact ⟨_, (Plan.comesTo_done.1 hrun).1⟩
    obtain ⟨report, rfl⟩ := hreport
    exact ⟨report, rfl, run_pausesAtWaits hs hc hr'⟩
  · rintro ⟨report, rfl, hwaits⟩
    by_contra hclaims
    push Not at hclaims
    have hrun : (chain.runFrom h o.id (o.context o.sendWindow) o.start).ComesTo Reply.IsObject
      (.ok report) xs := hr
    rcases hcases with ⟨heq, -⟩ | ⟨-, complaint, heq⟩ <;> rw [heq] at hrun
    · rcases walk_claimed hrun hclaims with
        ⟨f, hfault⟩ | ⟨_, s, n, hn, hres, hpaused, hlast, hid, ha⟩
      · cases hfault
      cases hres
      obtain ⟨-, s', hlast', m, hm, hid', amount, unit, hconf⟩ := hwaits.pause hpaused
      obtain rfl := Option.some.inj (hlast.symm.trans hlast')
      obtain rfl := List.inj_on_of_nodup_map hs.nodup (mem_of_ahead hn) hm (hid.symm.trans hid')
      exact absurd ((Chain.Node.not_action_of_wait hconf).symm.trans ha) Bool.false_ne_true
    · obtain ⟨-, rfl⟩ := Plan.comesTo_done.1 hrun
      obtain ⟨x, hx, -⟩ := hclaims
      exact absurd hx List.not_mem_nil

end

/-! ### An outing -/

namespace Outing

/-- An email, and a day's wait. -/
def definition : Workflow.Definition :=
  ⟨[⟨"start", "manual-trigger", .origin, []⟩,
    ⟨"mail", "send-email", .origin, [("subject", .str "Hello"), ("body", .str "Hi")]⟩,
    ⟨"rest", "wait", .origin, [("amount", .int 1), ("unit", .str "days")]⟩],
    [⟨"", "start", "mail"⟩, ⟨"", "mail", "rest"⟩], ⟨none⟩⟩

/-- Its chain. -/
def chain : Chain :=
  let trigger : Chain.Node := ⟨"start", "manual-trigger", .trigger⟩
  ⟨trigger, [trigger, ⟨"mail", "send-email", .email "Hello" "Hi" none⟩,
    ⟨"rest", "wait", .wait 1 .days⟩]⟩

/-- A run for somebody with an address. -/
def options : RunOptions :=
  { RunOptions.plain "execution-id" ⟨63870000000 * second, some 0⟩ with
    lead := { Lead.unknown with email := some "ada@example.org" } }

/-- What the run comes to if each reply has these members, and what it has asked for. -/
def result (fields : Json.Fields) (o : RunOptions) : Except Fault Report × List Exchange :=
  let collaborators : Collaborators Unit := ⟨fun _ w => (.returned (.obj fields), w), true⟩
  let plan := Runnable.run true (.chain chain) o
  ((plan.run collaborators ()).1, plan.calls collaborators ())

theorem linearize_definition : definition.linearize = .ok chain := by decide

theorem comesTo_result {fields : Json.Fields} (hkeys : (fields.map (·.1)).Nodup) (o : RunOptions) :
    (Runnable.run true (.chain chain) o).ComesTo Reply.IsObject (result fields o).1
      (result fields o).2 :=
  Plan.comesTo_run (k := ⟨fun _ w => (.returned (.obj fields), w), true⟩)
    (fun _ _ => hkeys) _ ()

theorem clears : ∀ n ∈ chain.ahead options.start,
    (options.context options.sendWindow).Clears n := by
  have hwindow : ∀ n ∈ chain.nodes,
      mayRun (options.context options.sendWindow) n = .ok true := by decide
  have hwaits : ∀ n ∈ chain.nodes, n.isWait = true → n.config = .wait 1 .days := by decide
  have hends : dueAfter (options.context options.sendWindow).now 1 .days =
      .ok ⟨63870086400 * second, some 0⟩ := by decide
  have hnow : (options.context options.sendWindow).now.IsValid := by
    refine ⟨by decide, fun offset hoffset => ?_⟩
    cases hoffset
    decide
  intro n hn
  refine ⟨hnow, ⟨true, hwindow n hn⟩, ?_, fun p hp => by cases hp⟩
  intro amount unit hconf _ _
  have hone := hwaits n hn (by rw [Chain.Node.isWait, hconf])
  rw [hconf] at hone
  cases hone
  exact ⟨_, hends⟩

/-- Members of which none is a pause, though one says when to resume. -/
def receipt : Json.Fields := [("id", .str "m-1"), ("resumeAt", .str "soon")]

end Outing

/-- A reply that says when to resume, but claims no pause: the run pauses at the wait. -/
theorem pauses_only_at_waits_outing :
    ∃ report, (Outing.result Outing.receipt Outing.options).1 = .ok report ∧
      report.PausesAtWaits Outing.chain Outing.options ∧ report.isPaused = true := by
  have hreplies : ∀ x ∈ (Outing.result Outing.receipt Outing.options).2,
      x.reply = .returned (.obj Outing.receipt) := by decide +kernel
  have hplain : ∀ x ∈ (Outing.result Outing.receipt Outing.options).2, x.reply.Plain := by
    intro x hx
    rw [hreplies x hx]
    show ∀ m ∈ Outing.receipt, m.1 = "paused" → m.2.isTruthy = false
    decide
  obtain ⟨report, hres, hwaits⟩ := (pauses_only_at_waits_iff Outing.linearize_definition
    Outing.clears (Outing.comesTo_result (by decide) _)).1 hplain
  have hpaused : (Outing.result Outing.receipt Outing.options).1.map (·.isPaused) = .ok true := by
    decide +kernel
  rw [hres] at hpaused
  exact ⟨report, hres, hwaits, Except.ok.inj hpaused⟩

/-- **A delivered email pauses the run and is sent again.** The reply claims a pause: the report
pauses at the email, the next run starts there, and it asks for the same delivery. If the reply also
says until when, in words that are no moment, the run has no report at all. -/
theorem claimed_mail_is_sent_again :
    let claim : String × Json := ("paused", .bool true)
    let first := Outing.result [claim] Outing.options
    let next := Outing.result [claim] { Outing.options with start := some "mail" }
    Outing.definition.linearize = .ok Outing.chain ∧
      first.1.map (fun r => (r.isPaused, r.pausedNode)) = .ok (true, some "mail") ∧
      first.1.bind (fun r => resumption Outing.chain r.steps) = .ok ⟨some "mail", none⟩ ∧
      first.2.map (·.delivery) =
        [.email (.str "ada@example.org") (.str "Hello") (.str "Hi")] ∧ next.2 = first.2 ∧
      (Outing.result [claim, ("resumeAt", .str "soon")] Outing.options).1 = .error .malformed := by
  decide +kernel

end Cadence
