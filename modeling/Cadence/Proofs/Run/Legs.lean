/-
# Runs are journeys

A run that does not pause is the whole journey along its nodes (`walk_through`). One that pauses is
a `Leg` of it: it ends where the journey ends, or at the next wait, behind which the journey goes
on (`walk_to_wait`). When the run is resumed there, it passes the wait if it is due
(`comesTo_resumed`).

Key definitions: `Context.Alike`, `Context.Reaches`, `PausedAt`, `Leg`.
Key theorems: `journey_alike`, `walk_through`, `walk_to_wait`, `comesTo_resumed`.
-/
import Cadence.Proofs.Run.Journey

namespace Cadence

open Time

variable {h : Bool} {c : Context} {n : Chain.Node}

/-! ### Contexts of one journey -/

namespace Context

/-- Two contexts in which the same is asked for, but for the channel of the last delivery. -/
structure Alike (c c' : Context) : Prop where
  lead : c.lead = c'.lead
  overrides : c.overrides = c'.overrides
  timeout : c.timeout = c'.timeout

theorem Alike.refl (c : Context) : c.Alike c := ⟨rfl, rfl, rfl⟩

theorem Alike.request {c c' : Context} (hc : c.Alike c') (last : Option String) :
    (c.withLast last).request h n = (c'.withLast last).request h n := by
  obtain ⟨lead, overrides, timeout⟩ := hc
  cases c
  cases c'
  cases lead
  cases overrides
  cases timeout
  rfl

end Context

/-- **A journey does not depend on when it happens.** -/
theorem journey_alike {c c' : Context} (hc : c.Alike c') (atWait : Option String → Option String) :
    ∀ (last : Option String) (nodes : List Chain.Node),
      journey h c atWait last nodes = journey h c' atWait last nodes
  | _, [] => rfl
  | last, n :: rest => by
    unfold journey
    simp only [hc.request, journey_alike hc atWait _ rest]

theorem journey_withLast (prior : Option String) (atWait : Option String → Option String)
    (last : Option String) (nodes : List Chain.Node) :
    journey h (c.withLast prior) atWait last nodes = journey h c atWait last nodes :=
  have hc : (c.withLast prior).Alike c := ⟨rfl, rfl, rfl⟩
  journey_alike hc atWait last nodes

/-! ### Runs that do not pause -/

/-- The number of steps at waits. -/
def waitsIn (steps : List Step) : Nat := steps.countP (·.nodeType = Workflow.waitType)

theorem waitsIn_append {steps : List Step} {s : Step} (hs : s.nodeType = Workflow.waitType) :
    waitsIn (steps ++ [s]) = waitsIn steps + 1 := by
  unfold waitsIn
  rw [List.countP_append, List.countP_cons_of_pos (by simpa using hs), List.countP_nil]

theorem waitsIn_append_other {steps : List Step} {s : Step}
    (hs : s.nodeType ≠ Workflow.waitType) : waitsIn (steps ++ [s]) = waitsIn steps := by
  unfold waitsIn
  rw [List.countP_append, List.countP_cons_of_neg (by simpa using hs), List.countP_nil,
    Nat.add_zero]

/-- The waits of a chain are the nodes of their type. -/
theorem type_of_wait (hf : n.Fits) {amount : Int} {unit : WaitUnit}
    (hc : n.config = .wait amount unit) : n.type = Workflow.waitType := by
  unfold Chain.Node.Fits at hf
  rw [hc] at hf
  exact hf

theorem type_ne_wait (hf : n.Fits) (hc : ∀ amount unit, n.config ≠ .wait amount unit) :
    n.type ≠ Workflow.waitType := by
  unfold Chain.Node.Fits at hf
  intro heq
  cases hconf : n.config with
  | wait amount unit => exact hc amount unit hconf
  | trigger =>
    rw [hconf] at hf
    simp only [heq] at hf
    exact absurd hf (by decide)
  | email => rw [hconf] at hf; exact absurd (heq.symm.trans hf) (by decide)
  | sms => rw [hconf] at hf; exact absurd (heq.symm.trans hf) (by decide)
  | agent => rw [hconf] at hf; exact absurd (heq.symm.trans hf) (by decide)

/-- **A run that does not pause is a whole journey**: its calls, its waits and how it ends. -/
theorem walk_through : ∀ {nodes : List Chain.Node} {c : Context} {r : Report}
    {res : Except Fault Report} {xs : List Exchange}, (∀ n ∈ nodes, n.Fits) →
    c.pauseAtWait = false → c.Open →
    (runNodes h c r nodes).ComesTo Reply.Succeeds res xs →
    let j := journey h c id c.lastChannel nodes
    ∃ report, res = .ok report ∧ xs.map (·.delivery) = j.deliveries ∧
      report.status = (if j.arrives then r.status else .failed) ∧
      waitsIn report.steps = waitsIn r.steps + j.waits
  | [], c, r, res, xs, _, _, _, hr => by
    obtain ⟨rfl, rfl⟩ := comesTo_runNodes_nil hr
    exact ⟨_, rfl, rfl, rfl, rfl⟩
  | n :: rest, c, r, res, xs, hfit, hp, hi, hr => by
    have hfn := hfit n List.mem_cons_self
    have hrest : ∀ m ∈ rest, m.Fits := fun m hm => hfit m (List.mem_cons_of_mem _ hm)
    rcases n.cases_config with hc | ⟨amount, unit, hc⟩ | ha
    · obtain ⟨report, hres, hxs, hstatus, hwaits⟩ :=
        walk_through hrest hp hi (comesTo_trigger hc hr)
      have hne : n.type ≠ Workflow.waitType :=
        type_ne_wait hfn fun amount unit heq => by rw [hc] at heq; cases heq
      refine ⟨report, hres, ?_⟩
      rw [journey_trigger hc]
      refine ⟨hxs, hstatus, ?_⟩
      rw [hwaits, Report.add, waitsIn_append_other hne]
    · have hstep : stepOfWait c n amount unit =
          .ok (c.step n .success [("amount", Json.int amount), ("unit", .str unit.name)]) := by
        unfold stepOfWait
        rw [hp]
        rfl
      obtain ⟨report, hres, hxs, hstatus, hwaits⟩ :=
        walk_through hrest hp hi (comesTo_wait hi hc hstep rfl rfl hr)
      refine ⟨report, hres, ?_⟩
      rw [journey_wait hc]
      refine ⟨hxs, hstatus, ?_⟩
      have hadd : waitsIn (r.add (c.step n .success [("amount", Json.int amount),
          ("unit", .str unit.name)])).steps = waitsIn r.steps + 1 :=
        waitsIn_append (type_of_wait hfn hc)
      rw [hwaits, hadd, Nat.add_assoc, Nat.add_comm 1]
      rfl
    · rcases comesTo_action hi ha hr with
        ⟨hreq, rfl, f, report, hres, hstatus, -, hsteps⟩ | ⟨d, reply, output, zs, hreq, rfl, hgo⟩
      all_goals
        have hne : n.type ≠ Workflow.waitType := type_ne_wait hfn fun amount unit heq => by
          rw [Chain.Node.not_action_of_wait heq] at ha
          cases ha
      · refine ⟨report, hres, ?_⟩
        rw [journey_stuck ha hreq]
        refine ⟨rfl, hstatus, ?_⟩
        rw [hsteps, waitsIn_append_other hne, Nat.add_zero]
      · obtain ⟨report, hres, hxs, hstatus, hwaits⟩ :=
          walk_through (c := c.withLast (n.lastAfter c.lastChannel)) hrest hp hi hgo
        refine ⟨report, hres, ?_⟩
        rw [journey_action ha hreq]
        rw [Report.add, waitsIn_append_other hne] at hwaits
        rw [journey_withLast] at hxs hstatus hwaits
        refine ⟨?_, hstatus, hwaits⟩
        rw [List.map_cons, hxs]
        rfl

/-! ### Runs that pause -/

/-- A moment whose offset is known, and what it is in universal time. -/
structure InUtc (m u : Moment) : Prop where
  valid : m.IsValid
  known : m.offset.isSome = true
  utc : m.toUtc = some u

/-- A node's wait, if it is one, has a due time when it is reached at the time of a context; this
time comes back from its text as one that universal time can show. -/
def Context.Reaches (c : Context) (n : Chain.Node) : Prop :=
  ∀ amount unit, n.config = .wait amount unit → ∃ due m u, dueAfter c.now amount unit = .ok due ∧
    Moment.ofIso? due.iso = some m ∧ InUtc m u

theorem Context.Reaches.inReach (hr : c.Reaches n) : InReach c n := by
  intro amount unit hconf
  obtain ⟨due, m, u, hdue, hm, hutc⟩ := hr amount unit hconf
  refine ⟨due, hdue, m, hm, ?_⟩
  rw [assumeUtc_of_known hutc.known, hutc.utc]
  rfl

/-- A run paused at a node until a moment, after further steps. -/
structure PausedAt (n : Chain.Node) (m : Moment) (r report : Report) : Prop where
  status : report.status = .success
  isPaused : report.isPaused = true
  resumeAt : report.resumeAt = some (.at m)
  last : ∃ steps s, report.steps = r.steps ++ steps ++ [s] ∧ s.nodeId = n.id ∧
    s.status = .success ∧ s.isPaused = true ∧ s.due? = .ok (some (.at m))

/-- What a run that pauses at waits makes of a journey: it comes to the end of it, or it pauses at a
wait, behind which the journey goes on with the channel that the lead prefers. -/
inductive Leg (h : Bool) (c : Context) (nodes : List Chain.Node) (r report : Report)
    (ds : List Delivery) : Journey → Prop
  | ended {j : Journey} : report.isPaused = false →
      report.status = (if j.arrives then .success else .failed) → j.waits = 0 →
      j.deliveries = ds → Leg h c nodes r report ds j
  | paused {before rest : List Chain.Node} {n : Chain.Node} {amount : Int} {unit : WaitUnit}
      {m u : Moment} : nodes = before ++ n :: rest → n.config = .wait amount unit →
      PausedAt n m r report → InUtc m u →
      Leg h c nodes r report ds
        (let j := journey h c (fun _ => c.preferred) c.preferred rest
        ⟨ds ++ j.deliveries, j.waits + 1, j.arrives⟩)

/-- A leg begins with a node that does not end it. -/
theorem Leg.cons {n : Chain.Node} {rest : List Chain.Node} {r report : Report} {s : Step}
    {c' : Context} {ds : List Delivery} {j j' : Journey} (made : List Delivery) (hc : c'.Alike c)
    (hleg : Leg h c' rest (r.add s) report ds j) (hds : made ++ j.deliveries = j'.deliveries)
    (hw : j'.waits = j.waits) (ha : j'.arrives = j.arrives) :
    Leg h c (n :: rest) r report (made ++ ds) j' := by
  cases hleg with
  | ended hp hs hw' hd =>
    refine .ended hp ?_ (hw.trans hw') ?_
    · rw [ha]
      exact hs
    · rw [← hds, hd]
  | paused hnodes hconf hpaused hutc =>
    rename_i before rest' m amount unit due u
    obtain ⟨hstatus, hp, hresume, steps, s', hsteps, hlast⟩ := hpaused
    have hj : j' = (let j := journey h c (fun _ => c.preferred) c.preferred rest'
        ⟨made ++ ds ++ j.deliveries, j.waits + 1, j.arrives⟩) := by
      have hpref : c'.preferred = c.preferred := by
        unfold Context.preferred
        rw [hc.lead]
      rw [journey_alike hc, hpref] at hds hw ha
      cases j'
      simp only at hds hw ha
      simp only [hw, ha, ← hds, List.append_assoc]
    rw [hj]
    refine .paused (by rw [hnodes, List.cons_append]) hconf
      ⟨hstatus, hp, hresume, s :: steps, s', ?_, hlast⟩ hutc
    rw [hsteps]
    show r.steps ++ [s] ++ steps ++ [s'] = _
    simp

/-- **A run that pauses at waits is a leg of the journey.** All its steps have the context's time.
-/
theorem walk_to_wait : ∀ {nodes : List Chain.Node} {c : Context} {r : Report}
    {res : Except Fault Report} {xs : List Exchange}, c.pauseAtWait = true →
    c.Open → (∀ p ∈ c.replay, p.nodeId ∉ nodes.map (·.id)) →
    (∀ n ∈ nodes, c.Reaches n) → r.isPaused = false → r.status = .success →
    (∀ s ∈ r.steps, s.createdAt = c.stamp) →
    (runNodes h c r nodes).ComesTo Reply.Succeeds res xs →
    ∃ report, res = .ok report ∧ (∀ s ∈ report.steps, s.createdAt = c.stamp) ∧
      Leg h c nodes r report (xs.map (·.delivery))
        (journey h c (fun _ => c.preferred) c.lastChannel nodes)
  | [], c, r, res, xs, _, _, _, _, hp, hs, hst, hr => by
    obtain ⟨rfl, rfl⟩ := comesTo_runNodes_nil hr
    exact ⟨_, rfl, hst, .ended hp hs rfl rfl⟩
  | n :: rest, c, r, res, xs, hpause, hi, hreplay, hreach, hp, hs, hst, hr => by
    have hreplay' : ∀ p ∈ c.replay, p.nodeId ∉ rest.map (·.id) :=
      fun p hp hmem => hreplay p hp (List.mem_cons_of_mem _ hmem)
    have hreach' : ∀ m ∈ rest, c.Reaches m := fun m hm => hreach m (List.mem_cons_of_mem _ hm)
    have hstamped : ∀ s : Step, s.createdAt = c.stamp →
        ∀ s' ∈ (r.add s).steps, s'.createdAt = c.stamp := by
      intro s hs s' hs'
      rcases List.mem_append.1 hs' with hs' | hs'
      · exact hst s' hs'
      · rw [List.mem_singleton.1 hs']
        exact hs
    rcases n.cases_config with hc | ⟨amount, unit, hc⟩ | ha
    · obtain ⟨report, hres, hst', hleg⟩ := walk_to_wait (r := r.add (c.step n .success [])) hpause hi
        hreplay' hreach' hp hs (hstamped _ rfl) (comesTo_trigger hc hr)
      refine ⟨report, hres, hst', ?_⟩
      rw [journey_trigger hc]
      exact hleg.cons [] (.refl c) rfl rfl rfl
    · obtain ⟨due, m, u, hdue, hm, hutc⟩ := hreach n List.mem_cons_self amount unit hc
      have hfresh : ∀ p ∈ c.replay, p.nodeId ≠ n.id :=
        fun p hp heq => hreplay p hp (by rw [heq]; exact List.mem_cons_self)
      obtain ⟨s, hstep, hid, hat, hsucc, hpaused, hget⟩ := stepOfWait_fresh hpause hfresh hdue
      have hdue? : s.due? = .ok (some (.at m)) := due?_of_iso hget hm
      obtain ⟨rfl, hres⟩ := comesTo_pause (mayRun_of_open hi) hc hstep hsucc hpaused hdue? hr
      refine ⟨_, hres, hstamped s hat, ?_⟩
      rw [journey_wait hc]
      refine .paused (List.nil_append _).symm hc
        ⟨hs, rfl, rfl, [], s, ?_, hid, hsucc, hpaused, hdue?⟩ hutc
      rw [List.append_nil]
      rfl
    · rcases comesTo_action hi ha hr with
        ⟨hreq, rfl, f, report, hres, hstatus, hpaused, hsteps⟩ | ⟨d, reply, output, zs, hreq, rfl, hgo⟩
      · refine ⟨report, hres, ?_, ?_⟩
        · rw [hsteps]
          exact hstamped _ rfl
        · rw [journey_stuck ha hreq]
          exact .ended (hpaused.trans hp) hstatus rfl rfl
      · obtain ⟨report, hres, hst', hleg⟩ :=
          walk_to_wait (c := c.withLast (n.lastAfter c.lastChannel))
            (r := r.add (c.step n .success output)) hpause hi hreplay' hreach' hp hs
            (hstamped (c.step n .success output) rfl) hgo
        refine ⟨report, hres, hst', ?_⟩
        have hlike : (c.withLast (n.lastAfter c.lastChannel)).Alike c := ⟨rfl, rfl, rfl⟩
        rw [journey_withLast] at hleg
        rw [journey_action ha hreq]
        exact hleg.cons [d] hlike rfl rfl rfl

/-- **A wait that is due is passed** by a run that comes back to it. -/
theorem comesTo_resumed {P : Reply → Prop} (hp : c.pauseAtWait = true)
    (hi : c.Open) {amount : Int} {unit : WaitUnit}
    (hc : n.config = .wait amount unit) {m : Moment} (hreplay : c.replay = some ⟨n.id, .at m⟩)
    (hdue : m.le? c.now = some true) {r : Report} {rest : List Chain.Node}
    {res : Except Fault Report} {xs : List Exchange}
    (hr : (runNodes h c r (n :: rest)).ComesTo P res xs) :
    ∃ s, s.createdAt = c.stamp ∧ (runNodes h c (r.add s) rest).ComesTo P res xs := by
  obtain ⟨s, hstep, hat, hsucc, hpaused⟩ : ∃ s, stepOfWait c n amount unit = .ok s ∧
      s.createdAt = c.stamp ∧ s.status = .success ∧ s.isPaused = false := by
    unfold stepOfWait
    simp only [hp, Bool.not_true, Bool.false_eq_true, if_false, hreplay, Option.filter,
      decide_true, if_true, hdue]
    exact ⟨_, rfl, rfl, rfl, rfl⟩
  exact ⟨s, hat, comesTo_wait hi hc hstep hsucc hpaused hr⟩

end Cadence
