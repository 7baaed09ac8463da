/-
# What keeps a run from having a report

At a time of the present only two things keep a node from having a step (`Context.Obstructs`): a
wait that ends after all times that clocks can show, and, where something is to be sent, a send
window whose time zone cannot be told. Collaborators never do, however they behave: a node that is
not obstructed passes, fails or pauses the run (`NodeRan.fate`). What a node needs to be passed is
said without its replies (`Context.Passes`), because the run passes it if they succeed
(`NodeRan.passed`).

Key definitions: `SendWindow.IsAstray`, `Context.Regular`, `Context.Obstructs`, `Context.Passes`,
`Context.Pauses`.
Key theorems: `SendWindow.allows_cases`, `dueAfter_eq`, `NodeRan.fate`.
-/
import Cadence.Proofs.Run.Channel
import Cadence.Proofs.Run.Reported
import Cadence.Proofs.Time.Zone

namespace Cadence

open Time

/-! ### Send windows without a time zone -/

/-- Whether the default zone is not taken in place of a name. -/
def Time.ZoneFault.isFinal : ZoneFault → Bool
  | .area _ | .tooLong _ | .throughMarker _ | .manyFolders _ => true
  | _ => false

namespace Workflow

/-- A send window whose time zone cannot be told: it is enabled, and names what is no zone but keeps
the default zone from being taken. -/
structure SendWindow.IsAstray (w : SendWindow) : Prop where
  enabled : w.enabled = true
  zone : ∃ name ∈ w.timezone, name ≠ "" ∧
    ∃ f : ZoneFault, Zones.lookup name = .error f ∧ f.isFinal = true

theorem filter_named {n : String} (h : n ≠ "") : (some n).filter (· ≠ "") = some n :=
  Option.filter_some_pos (decide_eq_true h)

/-- A name that is astray gives a fault. -/
theorem zoneOr_final {n : String} (hne : n ≠ "") {f : ZoneFault}
    (hlookup : Zones.lookup n = .error f) (hfinal : f.isFinal = true) (default : String) :
    ∃ fault, zoneOr default (some n) = .error fault := by
  unfold zoneOr
  simp only [filter_named hne, Option.getD_some, hlookup]
  cases f <;> first | exact ⟨_, rfl⟩ | cases hfinal

namespace SendWindow

theorem allows_astray {window : Option SendWindow} {w : SendWindow} (hw : w ∈ window)
    (h : w.IsAstray) (default : String) (m : Moment) :
    ∃ f, allows default window m = .error f := by
  obtain ⟨name, hname, hne, f, hlookup, hfinal⟩ := h.zone
  obtain ⟨fault, hfault⟩ := zoneOr_final hne hlookup hfinal default
  rw [← Option.mem_def.1 hname] at hfault
  refine ⟨fault, ?_⟩
  rw [Option.mem_def.1 hw]
  unfold allows
  simp only [h.enabled, Bool.not_true, Bool.false_eq_true, if_false, hfault]
  rfl

/-- A continent is no zone. -/
example : allows homeZone (some ⟨true, "09:00", "17:00", [], some "America"⟩)
    ⟨63870000000 * second, some 0⟩ = .error (.zoneArea "America") := by
  decide +kernel

end SendWindow
end Workflow

/-! ### Waits without an end -/

theorem WaitUnit.seconds_pos (unit : WaitUnit) : 0 < unit.seconds := by
  cases unit <;> decide

theorem waitingTime_eq {amount : Int} (hpos : 0 < amount) (unit : WaitUnit) :
    waitingTime amount unit =
      if amount * unit.seconds < (longestDays + 1) * 86400 then
        .ok (amount * unit.seconds * second)
      else .error .overflow := by
  have hs : 0 < amount * unit.seconds := Int.mul_pos hpos unit.seconds_pos
  have hlow : -longestDays * 86400 ≤ amount * unit.seconds := by
    unfold longestDays
    omega
  unfold waitingTime
  simp only [hlow, decide_true, Bool.true_and, decide_eq_true_eq]

/-- When a wait that takes some time is due: at a time that clocks show, or at none. -/
theorem dueAfter_eq {now : Moment} (h : 0 ≤ now.reading) {amount : Int} (hpos : 0 < amount)
    (unit : WaitUnit) : dueAfter now amount unit =
      if now.reading + amount * unit.seconds * second < endOfTime then
        .ok ⟨now.reading + amount * unit.seconds * second, now.offset⟩
      else .error .overflow := by
  have hs : 0 < amount * unit.seconds := Int.mul_pos hpos unit.seconds_pos
  have hshows : Moment.shows (now.reading + amount * unit.seconds * second) =
      decide (now.reading + amount * unit.seconds * second < endOfTime) := by
    have hsecond : 0 < amount * unit.seconds * second := Int.mul_pos hs (by decide)
    have hlow : 0 ≤ now.reading + amount * unit.seconds * second := by omega
    unfold Moment.shows
    rw [decide_eq_true hlow, Bool.true_and]
  unfold dueAfter
  rw [waitingTime_eq hpos]
  by_cases hlong : amount * unit.seconds < (longestDays + 1) * 86400
  · rw [if_pos hlong]
    by_cases hin : now.reading + amount * unit.seconds * second < endOfTime
    · have hadd : now.add (amount * unit.seconds * second) =
          some ⟨now.reading + amount * unit.seconds * second, now.offset⟩ := by
        unfold Moment.add
        simp only [hshows, hin, decide_true, if_true]
      rw [if_pos hin]
      refine bind_eq_ok.2 ⟨_, rfl, ?_⟩
      rw [hadd]
    · have hadd : now.add (amount * unit.seconds * second) = none := by
        unfold Moment.add
        simp only [hshows, hin, decide_false, Bool.false_eq_true, if_false]
      rw [if_neg hin]
      simp only [bind, Except.bind, hadd]
  · have hlate : ¬ now.reading + amount * unit.seconds * second < endOfTime := by
      unfold longestDays at hlong
      unfold endOfTime day second
      omega
    rw [if_neg hlong, if_neg hlate]
    rfl

/-! ### What a node comes to -/

namespace Context

/-- A context at a time of the present with a known default zone. If the run comes back to a wait,
this is due at a moment whose offset is known. -/
structure Regular (c : Context) : Prop where
  now : c.now.IsPresent
  zone : ∃ z, Zones.lookup c.defaultTimezone = .ok z
  replay : ∀ p ∈ c.replay, ∃ m : Moment, p.due = .at m ∧ m.IsValid ∧ m.offset.isSome = true

/-- What keeps a node from having a step. -/
inductive Obstructs (c : Context) (n : Chain.Node) : Prop
  /-- The node sends something, and the send window's time zone cannot be told. -/
  | window {w : Workflow.SendWindow} : n.isAction = true → c.ignoreSendWindow = false →
      w ∈ c.sendWindow → w.IsAstray → Obstructs c n
  /-- The node is a wait that the run does not come back to, and it ends after all times. -/
  | wait {amount : Int} {unit : WaitUnit} : n.config = .wait amount unit → c.pauseAtWait = true →
      (∀ p ∈ c.replay, p.nodeId ≠ n.id) →
      endOfTime ≤ c.now.reading + amount * unit.seconds * second → Obstructs c n

/-- What a node needs to be passed by a run, if what it asks for succeeds. -/
inductive Passes (h : Bool) (c : Context) (n : Chain.Node) : Prop
  | trigger : n.config = .trigger → Passes h c n
  | skipped : n.isAction = true → mayRun c n = .ok false → Passes h c n
  | sent : n.isAction = true → mayRun c n = .ok true → (c.request h n).isSome = true → Passes h c n
  | through {amount : Int} {unit : WaitUnit} : n.config = .wait amount unit →
      c.pauseAtWait = false → Passes h c n
  | resumed {amount : Int} {unit : WaitUnit} {m : Moment} : n.config = .wait amount unit →
      c.pauseAtWait = true → c.replay = some ⟨n.id, .at m⟩ → m.le? c.now = some true → Passes h c n

/-- A node that pauses a run until a moment: a wait, that of before again if it is not yet due. -/
inductive Pauses (c : Context) (n : Chain.Node) : Moment → Prop
  | fresh {amount : Int} {unit : WaitUnit} {due : Moment} : n.config = .wait amount unit →
      c.pauseAtWait = true → (∀ p ∈ c.replay, p.nodeId ≠ n.id) →
      dueAfter c.now amount unit = .ok due → Pauses c n due
  | again {amount : Int} {unit : WaitUnit} {m : Moment} : n.config = .wait amount unit →
      c.pauseAtWait = true → c.replay = some ⟨n.id, .at m⟩ → m.le? c.now = some false →
      Pauses c n m

end Context

/-- A step that pauses a run until a moment, as it is read back. -/
structure Step.PausesUntil (s : Step) (due : Moment) : Prop where
  status : s.status = .success
  isPaused : s.isPaused = true
  due : s.due? = .ok (some (.at due.kept))

variable {P : Reply → Prop} {h : Bool} {c : Context} {n : Chain.Node}

/-- A wait that is passed has a step behind which the run goes on. -/
theorem Context.Passes.step (hp : c.Passes h n) {amount : Int} {unit : WaitUnit}
    (hconf : n.config = .wait amount unit) :
    ∃ s, stepOfWait c n amount unit = .ok s ∧ s.Passed := by
  have hno : n.isAction ≠ true := by
    rw [Chain.Node.not_action_of_wait hconf]
    exact Bool.false_ne_true
  cases hp with
  | trigger hconf' =>
    rw [hconf] at hconf'
    cases hconf'
  | skipped ha => exact absurd ha hno
  | sent ha => exact absurd ha hno
  | through _ hpause =>
    unfold stepOfWait
    simp only [hpause, Bool.not_false, if_true]
    exact ⟨_, rfl, rfl, rfl⟩
  | resumed _ hpause hreplay hle =>
    unfold stepOfWait
    simp only [hpause, Bool.not_true, Bool.false_eq_true, if_false, hreplay, Option.filter,
      decide_true, if_true, hle]
    exact ⟨_, rfl, rfl, rfl⟩

/-- The moment until which a wait pauses a run is one that clocks show. -/
theorem Context.Pauses.due_isValid {due : Moment} (hc : c.Regular) (hp : c.Pauses n due) :
    due.IsValid ∧ due.offset.isSome = true := by
  cases hp with
  | fresh _ _ _ hdue =>
    obtain ⟨hvalid, hoffset⟩ := dueAfter_isValid hc.now.valid hdue
    exact ⟨hvalid, by rw [hoffset]; exact hc.now.known⟩
  | again _ _ hreplay =>
    obtain ⟨m, hm, hvalid, hknown⟩ := hc.replay _ hreplay
    cases hm
    exact ⟨hvalid, hknown⟩

/-- A wait that pauses a run has a step that says until when. -/
theorem Context.Pauses.step {due : Moment} (hc : c.Regular) (hp : c.Pauses n due) :
    ∃ amount unit s, n.config = .wait amount unit ∧ stepOfWait c n amount unit = .ok s ∧
      s.PausesUntil due := by
  have hiso := ofIso?_iso (hp.due_isValid hc).1
  cases hp with
  | fresh hconf hpause hback hdue =>
    obtain ⟨s, hs, -, -, hsucc, hpaused, hget⟩ := stepOfWait_fresh hpause hback hdue
    exact ⟨_, _, s, hconf, hs, hsucc, hpaused, due?_of_iso hget hiso⟩
  | again hconf hpause hreplay hle =>
    rename_i amount unit
    obtain ⟨s, hs, -, hsucc, hpaused, hget⟩ := stepOfWait_again hpause hreplay hle amount unit
    exact ⟨amount, unit, s, hconf, hs, hsucc, hpaused, due?_of_iso hget hiso⟩

/-- A wait that is obstructed has no step. -/
theorem Context.Obstructs.step (hc : c.Regular) (ho : c.Obstructs n) (hl : n.Lasts) {amount : Int}
    {unit : WaitUnit} (hconf : n.config = .wait amount unit) :
    ∃ f, stepOfWait c n amount unit = .error f := by
  cases ho with
  | window ha =>
    rw [Chain.Node.not_action_of_wait hconf] at ha
    cases ha
  | wait hconf' hpause hback hlate =>
    rw [hconf] at hconf'
    cases hconf'
    have hnow : 0 ≤ c.now.reading := by
      have hlow := hc.now.inner.reading.1
      unfold day second at hlow
      omega
    have hdue := dueAfter_eq hnow (hl _ _ hconf) unit
    rw [if_neg (by omega)] at hdue
    have hfilter : c.replay.filter (·.nodeId = n.id) = none := by
      rw [Option.filter_eq_none_iff]
      intro p hp
      simpa using hback p hp
    refine ⟨.overflow, ?_⟩
    unfold stepOfWait
    simp only [hpause, Bool.not_true, Bool.false_eq_true, if_false, hfilter, hdue]
    rfl

/-- Where something is to be sent but is obstructed, the send window does not say whether it may. -/
theorem Context.Obstructs.mayRun (ho : c.Obstructs n) (hf : n.Fits) (ha : n.isAction = true) :
    ∃ f, mayRun c n = .error f := by
  cases ho with
  | window _ hignore hw hastray =>
    rw [mayRun_eq_gate hf ha]
    unfold gate
    rw [hignore]
    exact Workflow.SendWindow.allows_astray hw hastray _ _
  | wait hconf =>
    rw [Chain.Node.not_action_of_wait hconf] at ha
    cases ha

/-- A node that pauses a run has a step that says until when. -/
theorem NodeRan.paused (hc : c.Regular) (hf : n.Fits) {due : Moment} (hp : c.Pauses n due)
    {res : Except Fault (Step × Context)} {xs : List Exchange} (hr : NodeRan P h c n res xs) :
    ∃ s, res = .ok (s, c) ∧ s.PausesUntil due := by
  obtain ⟨amount, unit, s, hconf, hstep, hpauses⟩ := hp.step hc
  have hm := mayRun_of_not_action (c := c) hf (Chain.Node.not_action_of_wait hconf)
  obtain ⟨rfl, -⟩ := hr.of_wait hm hconf
  rw [hstep]
  exact ⟨s, rfl, hpauses⟩

/-- A node with all that it needs is passed if what it asks for succeeds. -/
theorem NodeRan.passed (hf : n.Fits) (hp : c.Passes h n) {res : Except Fault (Step × Context)}
    {xs : List Exchange} (hr : NodeRan Reply.Succeeds h c n res xs) :
    ∃ s c', res = .ok (s, c') ∧ s.Passed := by
  rcases n.cases_config with ht | ⟨amount, unit, hconf⟩ | ha
  · obtain ⟨rfl, -⟩ := hr.trigger_ok ht
    exact ⟨_, _, rfl, rfl, rfl⟩
  · have hm := mayRun_of_not_action (c := c) hf (Chain.Node.not_action_of_wait hconf)
    obtain ⟨rfl, -⟩ := hr.of_wait hm hconf
    obtain ⟨s, hstep, hpassed⟩ := hp.step hconf
    rw [hstep]
    exact ⟨s, c, rfl, hpassed⟩
  · cases hp with
    | trigger ht =>
      rw [Chain.Node.not_action_of_trigger ht] at ha
      cases ha
    | through hconf =>
      rw [Chain.Node.not_action_of_wait hconf] at ha
      cases ha
    | resumed hconf =>
      rw [Chain.Node.not_action_of_wait hconf] at ha
      cases ha
    | skipped _ hm =>
      rcases hr.of_action ha with ⟨f, hm', -⟩ | ⟨-, rfl⟩ | hm'
      · rw [hm] at hm'
        cases hm'
      · exact ⟨_, _, rfl, rfl, rfl⟩
      · rw [hm] at hm'
        cases hm'
    | sent _ hm hreq =>
      rcases hr.action hm ha with ⟨hnone, -⟩ | ⟨d, r, output, -, -, rfl, hd⟩
      · rw [hnone] at hreq
        cases hreq
      · exact ⟨_, _, rfl, rfl, hd.getD⟩

end Cadence
