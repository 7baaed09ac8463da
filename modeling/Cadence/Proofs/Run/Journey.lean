/-
# What a lead gets along the way

When all that is asked for succeeds and the send window is no matter, a run does not depend on what
the replies are or when it happens. `journey` is the list of deliveries that a lead gets along
nodes, with the waits on the way and whether the lead gets to the end. What varies is the channel
of the last delivery: it is handed on from node to node, and at a wait it goes over to another, by
a function that the journey is given.

At each node a run does what the journey does there: an action fails without asking, or asks for its
delivery and succeeds (`NodeRan.action`), and from there the run goes on (`comesTo_action`).

Key definitions: `Context.request`, `Context.Open`, `journey`.
Key theorems: `NodeRan.action`, `comesTo_trigger`, `comesTo_wait`, `comesTo_pause`,
`comesTo_action`.
-/
import Cadence.Proofs.Run.Sent

namespace Cadence

open Time

/-! ### Journeys -/

namespace Context

/-- A context with the channel of another last delivery. -/
def withLast (c : Context) (last : Option String) : Context := { c with lastChannel := last }

/-- What a node asks for, if it has all that it takes and there is time for it. -/
def request (h : Bool) (c : Context) (n : Chain.Node) : Option Delivery :=
  match orderOf c h n with
  | .ok o => if c.timeout.gtInt 0 then some o.delivery else none
  | .error _ => none

/-- The channel that a lead prefers, as the channel of a last delivery. -/
def preferred (c : Context) : Option String := c.lead.channel.map Channel.name

end Context

/-- The channel of the last delivery after a node. -/
def Chain.Node.lastAfter (n : Node) (last : Option String) : Option String :=
  match n.config with
  | .email .. => some Channel.email.name
  | .sms .. => some Channel.sms.name
  | _ => last

/-- How far a lead gets and what it gets on the way. -/
structure Journey where
  deliveries : List Delivery
  waits : Nat
  arrives : Bool
  deriving Repr, DecidableEq, Inhabited

/-- The journey of a lead along nodes when all that is asked for succeeds. -/
def journey (h : Bool) (c : Context) (atWait : Option String → Option String) :
    Option String → List Chain.Node → Journey
  | _, [] => ⟨[], 0, true⟩
  | last, n :: rest =>
    match n.config with
    | .trigger => journey h c atWait last rest
    | .wait .. =>
      let j := journey h c atWait (atWait last) rest
      { j with waits := j.waits + 1 }
    | _ =>
      match (c.withLast last).request h n with
      | none => ⟨[], 0, false⟩
      | some d =>
        let j := journey h c atWait (n.lastAfter last) rest
        { j with deliveries := d :: j.deliveries }

section
variable {h : Bool} {c : Context} {n : Chain.Node} {atWait : Option String → Option String}
  {last : Option String} {rest : List Chain.Node}

theorem journey_trigger (hc : n.config = .trigger) :
    journey h c atWait last (n :: rest) = journey h c atWait last rest := by
  rw [journey, hc]

theorem journey_wait {amount : Int} {unit : WaitUnit} (hc : n.config = .wait amount unit) :
    journey h c atWait last (n :: rest) =
      { journey h c atWait (atWait last) rest with
        waits := (journey h c atWait (atWait last) rest).waits + 1 } := by
  rw [journey, hc]

theorem journey_of_action (ha : n.isAction = true) : journey h c atWait last (n :: rest) =
    match (c.withLast last).request h n with
    | none => ⟨[], 0, false⟩
    | some d =>
      let j := journey h c atWait (n.lastAfter last) rest
      { j with deliveries := d :: j.deliveries } := by
  rw [journey]
  split
  · rename_i hc
    rw [Chain.Node.not_action_of_trigger hc] at ha
    cases ha
  · rename_i hc
    rw [Chain.Node.not_action_of_wait hc] at ha
    cases ha
  · rfl

theorem journey_stuck (ha : n.isAction = true) (hr : (c.withLast last).request h n = none) :
    journey h c atWait last (n :: rest) = ⟨[], 0, false⟩ := by
  rw [journey_of_action ha, hr]

theorem journey_action (ha : n.isAction = true) {d : Delivery}
    (hr : (c.withLast last).request h n = some d) :
    journey h c atWait last (n :: rest) =
      { journey h c atWait (n.lastAfter last) rest with
        deliveries := d :: (journey h c atWait (n.lastAfter last) rest).deliveries } := by
  rw [journey_of_action ha, hr]

end

/-! ### One node -/

variable {P : Reply → Prop} {h : Bool} {c : Context} {n : Chain.Node}

/-- The context after an order of a node only has another channel of the last delivery. -/
theorem after_of_orderOf {o : Order} (ho : orderOf c h n = .ok o) :
    c.after o.delivery = c.withLast (n.lastAfter c.lastChannel) := by
  unfold Chain.Node.lastAfter
  cases ordered_of_orderOf ho with
  | email hconfig | sms hconfig | agent hconfig =>
    rw [hconfig]
    rfl

/-- The send window is no matter: it is not asked for, or it allows messages at this time. -/
def Context.Open (c : Context) : Prop :=
  c.ignoreSendWindow = true ∨
    Workflow.SendWindow.allows c.defaultTimezone c.sendWindow c.now = .ok true

theorem mayRun_of_open (hi : c.Open) : mayRun c n = .ok true := by
  unfold mayRun
  split
  · rename_i hask
    rcases hi with hi | hi
    · rw [hi, Bool.not_true, Bool.and_false] at hask
      cases hask
    · exact hi
  · rfl

theorem NodeRan.trigger_ok (hc : n.config = .trigger) {res : Except Fault (Step × Context)}
    {xs : List Exchange} (hran : NodeRan P h c n res xs) :
    res = .ok (c.step n .success [], c) ∧ xs = [] := by
  have ha := Chain.Node.not_action_of_trigger hc
  cases hran with
  | trigger => exact ⟨rfl, rfl⟩
  | blocked hne => exact absurd hc hne
  | skipped hne => exact absurd hc hne
  | waited hw =>
    rw [hc] at hw
    cases hw
  | refused ha' => exact absurd (ha.symm.trans ha') Bool.false_ne_true
  | late ha' => exact absurd (ha.symm.trans ha') Bool.false_ne_true
  | answered ha' => exact absurd (ha.symm.trans ha') Bool.false_ne_true

/-- **An action fails without asking, or asks for its delivery and succeeds.** -/
theorem NodeRan.action (hm : mayRun c n = .ok true) (ha : n.isAction = true)
    {res : Except Fault (Step × Context)} {xs : List Exchange}
    (hran : NodeRan Reply.Succeeds h c n res xs) :
    (c.request h n = none ∧ xs = [] ∧ ∃ f, res = .ok (c.failedStep n f, c)) ∨
      ∃ d r output, c.request h n = some d ∧ xs = [⟨d, r⟩] ∧
        res = .ok (c.step n .success output, c.withLast (n.lastAfter c.lastChannel)) ∧
        output.Denies "paused" := by
  cases hran with
  | trigger hc =>
    exact absurd ((Chain.Node.not_action_of_trigger hc).symm.trans ha) Bool.false_ne_true
  | blocked _ hm' =>
    rw [hm] at hm'
    cases hm'
  | skipped _ hm' =>
    rw [hm] at hm'
    cases hm'
  | waited hc =>
    exact absurd ((Chain.Node.not_action_of_wait hc).symm.trans ha) Bool.false_ne_true
  | refused _ _ ho =>
    refine Or.inl ⟨?_, rfl, _, rfl⟩
    unfold Context.request
    rw [ho]
  | late _ _ ho ht =>
    refine Or.inl ⟨?_, rfl, _, rfl⟩
    unfold Context.request
    rw [ho]
    simp only [ht, Bool.false_eq_true, if_false]
  | answered ha' hm' ho ht hr =>
    rename_i o r
    rcases settle_plain (c := c) (n := n) hr.plain o with ⟨f, -, hnot⟩ | ⟨fields, rfl, hd, hsettle⟩
    · unfold Reply.Succeeds at hr
      split at hr
      · cases hnot
      · exact hr.elim
    · refine Or.inr ⟨o.delivery, _, _, ?_, rfl, ?_, Json.Fields.denies_merge (orderOf_denies ho) hd⟩
      · unfold Context.request
        rw [ho]
        simp only [ht, if_true]
      · rw [hsettle, after_of_orderOf ho]

/-! ### Steps of a run -/

section
variable {r : Report} {rest : List Chain.Node} {res : Except Fault Report} {xs : List Exchange}

/-- Behind a node whose step passes, a run goes on. -/
theorem comesTo_pass {s : Step} {c' : Context} {ys : List Exchange} (hs : s.status = .success)
    (hp : s.isPaused = false)
    (hran : ∀ res ys', NodeRan P h c n res ys' → res = .ok (s, c') ∧ ys' = ys)
    (hr : (runNodes h c r (n :: rest)).ComesTo P res xs) :
    ∃ zs, xs = ys ++ zs ∧ (runNodes h c' (r.add s) rest).ComesTo P res zs := by
  rcases comesTo_runNodes_cons hr with ⟨f, hn, -⟩ | ⟨s', c'', ys', zs, hn, rfl, hgo⟩
  · cases (hran _ _ hn).1
  obtain ⟨heq, rfl⟩ := hran _ _ hn
  cases heq
  exact ⟨zs, rfl, hgo.of_passed hs hp⟩

theorem comesTo_trigger (hc : n.config = .trigger)
    (hr : (runNodes h c r (n :: rest)).ComesTo P res xs) :
    (runNodes h c (r.add (c.step n .success [])) rest).ComesTo P res xs := by
  obtain ⟨zs, rfl, hrest⟩ := comesTo_pass rfl rfl (fun _ _ hn => hn.trigger_ok hc) hr
  exact hrest

/-- Behind a wait that is passed, a run goes on. -/
theorem comesTo_wait (hi : c.Open) {amount : Int} {unit : WaitUnit}
    (hc : n.config = .wait amount unit) {s : Step} (hstep : stepOfWait c n amount unit = .ok s)
    (hs : s.status = .success) (hp : s.isPaused = false)
    (hr : (runNodes h c r (n :: rest)).ComesTo P res xs) :
    (runNodes h c (r.add s) rest).ComesTo P res xs := by
  have hpass : ∀ res ys, NodeRan P h c n res ys → res = .ok (s, c) ∧ ys = [] := by
    intro res ys hn
    obtain ⟨hres, hys⟩ := hn.of_wait (mayRun_of_open hi) hc
    rw [hstep] at hres
    exact ⟨hres, hys⟩
  obtain ⟨zs, rfl, hrest⟩ := comesTo_pass hs hp hpass hr
  exact hrest

/-- At a wait that pauses it, a run ends. -/
theorem comesTo_pause (hm : mayRun c n = .ok true) {amount : Int} {unit : WaitUnit}
    (hc : n.config = .wait amount unit) {s : Step} (hstep : stepOfWait c n amount unit = .ok s)
    (hs : s.status = .success) (hp : s.isPaused = true) {due : Option Due} (hd : s.due? = .ok due)
    (hr : (runNodes h c r (n :: rest)).ComesTo P res xs) :
    xs = [] ∧ res = .ok { r.add s with
      isPaused := true, pausedNode := some n.id, resumeAt := due, completedAt := some c.stamp } := by
  rcases comesTo_runNodes_cons hr with ⟨f, hn, -⟩ | ⟨s', c', ys, zs, hn, rfl, hgo⟩
  · have hres := (hn.of_wait hm hc).1
    rw [hstep] at hres
    cases hres
  obtain ⟨hres, rfl⟩ := hn.of_wait hm hc
  rw [hstep] at hres
  cases hres
  obtain ⟨hres, rfl⟩ := hgo.of_paused hs hp
  rw [hd] at hres
  exact ⟨rfl, hres⟩

/-- At an action a run ends with a failure, or it asks and goes on. -/
theorem comesTo_action (hi : c.Open) (ha : n.isAction = true)
    (hr : (runNodes h c r (n :: rest)).ComesTo Reply.Succeeds res xs) :
    (c.request h n = none ∧ xs = [] ∧ ∃ f report, res = .ok report ∧ report.status = .failed ∧
        report.isPaused = r.isPaused ∧ report.steps = r.steps ++ [c.failedStep n f]) ∨
      ∃ d reply output zs, c.request h n = some d ∧ xs = ⟨d, reply⟩ :: zs ∧
        (runNodes h (c.withLast (n.lastAfter c.lastChannel)) (r.add (c.step n .success output))
          rest).ComesTo Reply.Succeeds res zs := by
  rcases comesTo_runNodes_cons hr with ⟨f, hn, -⟩ | ⟨s, c', ys, zs, hn, rfl, hgo⟩
  · rcases hn.action (mayRun_of_open hi) ha with
      ⟨-, -, f', hres⟩ | ⟨d, reply, output, -, -, hres, -⟩ <;> cases hres
  rcases hn.action (mayRun_of_open hi) ha with
    ⟨hreq, rfl, f, hres⟩ | ⟨d, reply, output, hreq, rfl, hres, hd⟩
  · cases hres
    obtain ⟨⟨message, rfl⟩, rfl⟩ := hgo.of_failed rfl
    exact Or.inl ⟨hreq, rfl, f, _, rfl, rfl, rfl, rfl⟩
  · cases hres
    exact Or.inr ⟨d, reply, output, zs, hreq, rfl, hgo.of_passed rfl hd.getD⟩

end

end Cadence
