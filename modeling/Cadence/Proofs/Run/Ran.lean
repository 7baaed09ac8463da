/-
# What running a node comes to

Everything that running one node can come to is listed once, as the relation `NodeRan` between a
node and its result: a step with the context after it, or a fault. `ran_of_comesTo` shows that the
list is complete; no other proof has to open `runNode`. A node never asks for more than one
delivery, and where there is a fault it has asked for none.

For a node that does what its type says, `NodeRan.kinds` sorts the steps by what they mean for the
way through a chain: an action failed, a wait pauses, a wait that was reached before is passed, or
the node has succeeded.

Key definitions: `Entry`, `NodeRan`, `Ordered`, `Entry.Failed`, `Entry.Succeeded`, `Entry.Paused`.
Key theorems: `ran_of_comesTo`, `ordered_of_orderOf`, `NodeRan.kinds`.
-/
import Cadence.Enrollment.Rows
import Cadence.Proofs.Delivery.Calls
import Cadence.Proofs.Json.Fields
import Cadence.Proofs.Workflow.Linear
import Cadence.Run.Chain

namespace Cadence

open Time

/-! ### What a step says, without its time -/

/-- What is kept of a step besides its time. -/
structure Entry where
  nodeId : String
  nodeType : String
  status : Outcome
  output : Json.Fields
  deriving Repr, DecidableEq, Inhabited

/-- What a step says, without its time. -/
def Step.entry (s : Step) : Entry := ⟨s.nodeId, s.nodeType, s.status, s.output⟩

/-- What a step that is kept says, without its time. -/
def Enrollment.StepRow.entry (r : Enrollment.StepRow) : Entry :=
  ⟨r.nodeId, r.nodeType, r.status, r.output⟩

namespace Entry

/-- Whether an entry is about a node. -/
def Of (e : Entry) (n : Chain.Node) : Prop := e.nodeId = n.id ∧ e.nodeType = n.type

/-- Whether an entry says that the run paused. -/
def isPaused (e : Entry) : Bool := (Json.Fields.getD e.output "paused").isTruthy

/-- Whether an entry says that a wait was passed after its due time. -/
def isResumed (e : Entry) : Bool := (Json.Fields.getD e.output "resumed").isTruthy

/-- A failed step of a node. -/
def Failed (n : Chain.Node) (e : Entry) : Prop := e.Of n ∧ e.status = .failed

/-- A successful step of a node that did not pause the run. -/
def Succeeded (n : Chain.Node) (e : Entry) : Prop :=
  e.Of n ∧ e.status = .success ∧ e.isPaused = false

/-- A step of a node that paused the run. -/
def Paused (n : Chain.Node) (e : Entry) : Prop :=
  e.Of n ∧ e.status = .success ∧ e.isPaused = true

/-- A successful step of a node at which the run was paused before. -/
def Resumed (n : Chain.Node) (e : Entry) : Prop := e.Succeeded n ∧ e.isResumed = true

end Entry

theorem Step.entry_isPaused (s : Step) : s.entry.isPaused = s.isPaused := rfl

/-! ### Running a node -/

/-- What running a node can come to with replies that have a property, and the calls on the way. -/
inductive NodeRan (P : Reply → Prop) (h : Bool) (c : Context) (n : Chain.Node) :
    Except Fault (Step × Context) → List Exchange → Prop
  | trigger : n.config = .trigger → NodeRan P h c n (.ok (c.step n .success [], c)) []
  | blocked {f : Fault} : n.config ≠ .trigger → mayRun c n = .error f →
      NodeRan P h c n (.error f) []
  | skipped : n.config ≠ .trigger → mayRun c n = .ok false →
      NodeRan P h c n (.ok (skippedStep c n, c)) []
  | waited {amount : Int} {unit : WaitUnit} : n.config = .wait amount unit →
      NodeRan P h c n ((stepOfWait c n amount unit).map (·, c)) []
  | refused {f : Failure} : n.isAction = true → mayRun c n = .ok true → orderOf c h n = .error f →
      NodeRan P h c n (.ok (c.failedStep n f, c)) []
  | late {o : Order} : n.isAction = true → mayRun c n = .ok true → orderOf c h n = .ok o →
      c.timeout.gtInt 0 = false → NodeRan P h c n (.ok (c.failedStep n .timedOut, c)) []
  | answered {o : Order} {r : Reply} : n.isAction = true → mayRun c n = .ok true →
      orderOf c h n = .ok o → c.timeout.gtInt 0 = true → P r →
      NodeRan P h c n (.ok (settle c n o r)) [⟨o.delivery, r⟩]

variable {P : Reply → Prop} {h : Bool} {c : Context} {n : Chain.Node}

/-- What asking for the delivery of a node comes to. -/
theorem ran_of_perform (ha : n.isAction = true) (hm : mayRun c n = .ok true)
    {a : Step × Context} {xs : List Exchange} (hp : (perform c h n).ComesTo P a xs) :
    NodeRan P h c n (.ok a) xs := by
  unfold perform at hp
  split at hp
  · rename_i failure horder
    obtain ⟨rfl, rfl⟩ := Plan.comesTo_done.1 hp
    exact .refused ha hm horder
  · rename_i order horder
    split at hp
    · rename_i hlate
      obtain ⟨r, ys, hr, hn, rfl⟩ := Plan.comesTo_ask.1 hp
      obtain ⟨rfl, rfl⟩ := Plan.comesTo_done.1 hn
      exact .answered ha hm horder hlate hr
    · rename_i hlate
      obtain ⟨rfl, rfl⟩ := Plan.comesTo_done.1 hp
      exact .late ha hm horder (by simpa using hlate)

/-- **Everything that running a node comes to is listed.** -/
theorem ran_of_comesTo {r : Except Fault (Step × Context)} {xs : List Exchange}
    (hr : (runNode h c n).ComesTo P r xs) : NodeRan P h c n r xs := by
  unfold runNode at hr
  split at hr
  · rename_i hc
    obtain ⟨rfl, rfl⟩ := Plan.comesTo_done.1 hr
    exact .trigger hc
  · rename_i hc
    split at hr
    · rename_i fault hm
      obtain ⟨rfl, rfl⟩ := Plan.comesTo_done.1 hr
      exact .blocked hc hm
    · rename_i hm
      obtain ⟨rfl, rfl⟩ := Plan.comesTo_done.1 hr
      exact .skipped hc hm
    · rename_i hm
      split at hr
      · rename_i amount unit hw
        obtain ⟨rfl, rfl⟩ := Plan.comesTo_done.1 hr
        exact .waited hw
      · rename_i hw
        obtain ⟨a, ys, zs, hp, hd, rfl⟩ := Plan.comesTo_bind.1 hr
        obtain ⟨rfl, rfl⟩ := Plan.comesTo_done.1 hd
        rw [List.append_nil]
        refine ran_of_perform ?_ hm hp
        unfold Chain.Node.isAction
        cases hconf : n.config with
        | trigger => exact absurd hconf hc
        | wait amount unit => exact absurd hconf (hw amount unit)
        | email => rfl
        | sms => rfl
        | agent => rfl

/-! ### The members of a plain reply -/

/-- The members of an object are its own. -/
theorem fields_ofFields (f : Json.Fields) : (Members.ofFields f).fields = .ok f := by
  have hkeys : (Members.ofFields f).strangeKeys = [] := by
    unfold Members.strangeKeys Members.ofFields
    rw [List.map_map, List.filter_eq_nil_iff]
    intro key hkey
    obtain ⟨m, -, rfl⟩ := List.mem_map.1 hkey
    exact Bool.false_ne_true
  have hfields : (Members.ofFields f).filterMap (fun m => m.1.asText?.map (·, m.2)) = f := by
    simp [Members.ofFields, List.filterMap_map, Json.asText?]
  unfold Members.fields
  rw [hkeys]
  exact congrArg Except.ok hfields

theorem members_obj (f : Json.Fields) :
    (Reply.returned (.obj f)).members = .ok (Members.ofFields f) := by
  cases f <;> rfl

/-- A delivery that is answered with an object has a step that records its members. -/
theorem settle_obj (o : Order) (fields : Json.Fields) :
    settle c n o (.returned (.obj fields)) =
      (c.step n .success (Json.Fields.merge o.output fields), c.after o.delivery) := by
  unfold settle
  rw [members_obj]
  simp only [fields_ofFields]

/-- What a node's step is like whose delivery got a plain reply: it records the members of the
reply, or it has failed. -/
theorem settle_plain {r : Reply} (hr : r.Plain) (o : Order) :
    (∃ f, settle c n o r = (c.failedStep n f, c) ∧ r.isReturned = false) ∨
      ∃ fields, r = .returned (.obj fields) ∧ Json.Fields.Denies fields "paused" ∧
        settle c n o r = (c.step n .success (Json.Fields.merge o.output fields),
          c.after o.delivery) := by
  cases r with
  | returned v =>
    obtain ⟨fields, rfl, hpaused⟩ := hr.obj
    exact Or.inr ⟨fields, rfl, hpaused, settle_obj o fields⟩
  | failed f => exact Or.inl ⟨f, rfl, rfl⟩
  | hung => exact Or.inl ⟨.timedOut, rfl, rfl⟩

/-! ### Orders -/

/-- What a node can order: an email or a text message to its recipient, or a handover. -/
inductive Ordered (h : Bool) (c : Context) (n : Chain.Node) : Order → Prop
  | email {subject body subject' body' : String} {given : Option String} :
      n.config = .email subject body given → emailRecipient given c.overrides c.lead ≠ "" →
      c.render subject = .ok subject' → c.render body = .ok body' →
      Ordered h c n ⟨.email (.str (emailRecipient given c.overrides c.lead)) (.str subject')
        (.str body'), [("to", .str (emailRecipient given c.overrides c.lead))]⟩
  | sms {message message' : String} {given : Option String} :
      n.config = .sms message given → smsRecipient given c.overrides c.lead ≠ "" →
      c.render message = .ok message' →
      Ordered h c n ⟨.sms (.str (smsRecipient given c.overrides c.lead)) (.str message'),
        [("to", .str (smsRecipient given c.overrides c.lead))]⟩
  | agent {agentId : String} {notes : Option String} :
      n.config = .agent agentId notes → h = true →
      Ordered h c n ⟨.handoff (.str agentId) (.ofText? notes) (leadForAgent c),
        [("agentId", .str agentId)]⟩

/-- **A node orders nothing else**; no other proof has to open `orderOf` for an order. -/
theorem ordered_of_orderOf {o : Order} (ho : orderOf c h n = .ok o) : Ordered h c n o := by
  unfold orderOf at ho
  split at ho
  · rename_i subject body given hconfig
    dsimp only at ho
    split at ho
    · cases ho
    · rename_i hne
      obtain ⟨subject', hsubject, ho⟩ := bind_eq_ok.1 ho
      obtain ⟨body', hbody, ho⟩ := bind_eq_ok.1 ho
      cases ho
      exact .email hconfig hne hsubject hbody
  · rename_i message given hconfig
    dsimp only at ho
    split at ho
    · cases ho
    · rename_i hne
      obtain ⟨message', hmessage, ho⟩ := bind_eq_ok.1 ho
      cases ho
      exact .sms hconfig hne hmessage
  · rename_i agentId notes hconfig
    split at ho
    · cases ho
    · rename_i hhands
      cases ho
      exact .agent hconfig (by simpa using hhands)
  · cases ho

/-- What an order records besides the reply says nothing about a pause. -/
theorem orderOf_denies {o : Order} (ho : orderOf c h n = .ok o) : o.output.Denies "paused" := by
  cases ordered_of_orderOf ho with
  | email | sms | agent => simp [Json.Fields.Denies]

/-! ### Kinds of steps -/

/-- What a step of a node means for the way through a chain. -/
inductive Kind (c : Context) (n : Chain.Node) (e : Entry) : Prop
  | failed : n.isAction = true → e.Failed n → Kind c n e
  | passed : n.config = .trigger ∨ n.isAction = true → e.Succeeded n → Kind c n e
  | resumed {amount : Int} {unit : WaitUnit} : n.config = .wait amount unit → e.Resumed n →
      (∃ r ∈ c.replay, r.nodeId = n.id) → Kind c n e
  | paused {amount : Int} {unit : WaitUnit} : n.config = .wait amount unit → e.Paused n →
      Kind c n e

/-- A wait in a run that pauses either pauses it or has been reached before. -/
theorem kind_of_wait (hp : c.pauseAtWait = true) {amount : Int} {unit : WaitUnit}
    (hc : n.config = .wait amount unit) {s : Step} (hs : stepOfWait c n amount unit = .ok s) :
    Kind c n s.entry := by
  unfold stepOfWait at hs
  simp only [hp, Bool.not_true, Bool.false_eq_true, if_false] at hs
  split at hs
  · rename_i id due hreplay
    have hfound : ∃ r ∈ c.replay, r.nodeId = n.id := by
      obtain ⟨hmem, hid⟩ := Option.filter_eq_some_iff.1 hreplay
      exact ⟨_, hmem, by simpa using hid⟩
    split at hs
    · cases hs
    · cases hs
      exact .resumed hc ⟨⟨⟨rfl, rfl⟩, rfl, rfl⟩, rfl⟩ hfound
    · cases hs
      exact .paused hc ⟨⟨rfl, rfl⟩, rfl, rfl⟩
  · cases hs
  · obtain ⟨due, -, hs⟩ := bind_eq_ok.1 hs
    cases hs
    exact .paused hc ⟨⟨rfl, rfl⟩, rfl, rfl⟩

/-- The step of a wait is a success of the wait. -/
theorem stepOfWait_step {amount : Int} {unit : WaitUnit} {s : Step}
    (hs : stepOfWait c n amount unit = .ok s) : ∃ output, s = c.step n .success output := by
  unfold stepOfWait at hs
  dsimp only at hs
  split at hs
  · cases hs
    exact ⟨_, rfl⟩
  · split at hs
    · split at hs
      · cases hs
      · cases hs
        exact ⟨_, rfl⟩
      · cases hs
        exact ⟨_, rfl⟩
    · cases hs
    · obtain ⟨due, -, hs⟩ := bind_eq_ok.1 hs
      cases hs
      exact ⟨_, rfl⟩

theorem stepOfWait_of {amount : Int} {unit : WaitUnit} {s : Step}
    (hs : stepOfWait c n amount unit = .ok s) : s.entry.Of n := by
  obtain ⟨output, rfl⟩ := stepOfWait_step hs
  exact ⟨rfl, rfl⟩

/-- A wait that the run does not come back to gives a pause until its due time. -/
theorem stepOfWait_fresh (hp : c.pauseAtWait = true) (hr : ∀ p ∈ c.replay, p.nodeId ≠ n.id)
    {amount : Int} {unit : WaitUnit} {due : Moment} (hdue : dueAfter c.now amount unit = .ok due) :
    ∃ s, stepOfWait c n amount unit = .ok s ∧ s.nodeId = n.id ∧ s.createdAt = c.stamp ∧
      s.status = .success ∧ s.isPaused = true ∧ s.get "resumeAt" = .str due.iso := by
  have hreplay : c.replay.filter (·.nodeId = n.id) = none := by
    rw [Option.filter_eq_none_iff]
    intro p hp
    simpa using hr p hp
  unfold stepOfWait
  simp only [hp, Bool.not_true, Bool.false_eq_true, if_false, hreplay, hdue]
  exact ⟨_, rfl, rfl, rfl, rfl, rfl, rfl⟩

/-- A wait that the run comes back to too early pauses it until the same moment. -/
theorem stepOfWait_again (hp : c.pauseAtWait = true) {due : Moment}
    (hr : c.replay = some ⟨n.id, .at due⟩) (hle : due.le? c.now = some false) (amount : Int)
    (unit : WaitUnit) : ∃ s, stepOfWait c n amount unit = .ok s ∧ s.nodeId = n.id ∧
      s.status = .success ∧ s.isPaused = true ∧ s.get "resumeAt" = .str due.iso := by
  unfold stepOfWait
  simp only [hp, Bool.not_true, Bool.false_eq_true, if_false, hr, Option.filter, decide_true,
    if_true, hle]
  exact ⟨_, rfl, rfl, rfl, rfl, rfl⟩

/-- A wait that may run asks for nothing. -/
theorem NodeRan.of_wait (hm : mayRun c n = .ok true) {amount : Int} {unit : WaitUnit}
    (hc : n.config = .wait amount unit) {res : Except Fault (Step × Context)}
    {xs : List Exchange} (hran : NodeRan P h c n res xs) :
    res = (stepOfWait c n amount unit).map (·, c) ∧ xs = [] := by
  have ha := Chain.Node.not_action_of_wait hc
  cases hran with
  | trigger hc' =>
    rw [hc] at hc'
    cases hc'
  | blocked _ hm' =>
    rw [hm] at hm'
    cases hm'
  | skipped _ hm' =>
    rw [hm] at hm'
    cases hm'
  | waited hc' =>
    rw [hc] at hc'
    cases hc'
    exact ⟨rfl, rfl⟩
  | refused ha' => exact absurd (ha.symm.trans ha') Bool.false_ne_true
  | late ha' => exact absurd (ha.symm.trans ha') Bool.false_ne_true
  | answered ha' => exact absurd (ha.symm.trans ha') Bool.false_ne_true

/-- What a node that sends something comes to, if the send window does not let it send. -/
theorem NodeRan.of_action (ha : n.isAction = true) {res : Except Fault (Step × Context)}
    {xs : List Exchange} (hran : NodeRan P h c n res xs) :
    (∃ f, mayRun c n = .error f ∧ res = .error f) ∨
      mayRun c n = .ok false ∧ res = .ok (skippedStep c n, c) ∨ mayRun c n = .ok true := by
  have hno : n.isAction ≠ false := by
    rw [ha]
    decide
  cases hran with
  | trigger hc => exact absurd (Chain.Node.not_action_of_trigger hc) hno
  | blocked _ hm => exact Or.inl ⟨_, hm, rfl⟩
  | skipped _ hm => exact Or.inr (Or.inl ⟨hm, rfl⟩)
  | waited hc => exact absurd (Chain.Node.not_action_of_wait hc) hno
  | refused _ hm => exact Or.inr (Or.inr hm)
  | late _ hm => exact Or.inr (Or.inr hm)
  | answered _ hm => exact Or.inr (Or.inr hm)

/-- The send window only concerns nodes that send something. -/
theorem mayRun_of_not_action (hf : n.Fits) (ha : n.isAction = false) : mayRun c n = .ok true := by
  have hns : n.type ∉ Workflow.sendingTypes := by
    rw [hf.sending_iff, ha]
    decide
  unfold mayRun
  simp [hns]

/-- **The steps of a node that does what its type says, sorted.** -/
theorem NodeRan.kinds (hf : n.Fits) (hp : c.pauseAtWait = true) {s : Step} {c' : Context}
    {xs : List Exchange} (hr : NodeRan Reply.Plain h c n (.ok (s, c')) xs) :
    Kind c n s.entry := by
  generalize hres : Except.ok (s, c') = res at hr
  cases hr with
  | trigger hc =>
    cases hres
    exact .passed (Or.inl hc) ⟨⟨rfl, rfl⟩, rfl, rfl⟩
  | blocked => cases hres
  | skipped hc hm =>
    cases hres
    have ha : n.isAction = true := by
      by_contra hna
      rw [mayRun_of_not_action hf (by simpa using hna)] at hm
      cases hm
    exact .passed (Or.inr ha) ⟨⟨rfl, rfl⟩, rfl, rfl⟩
  | waited hc =>
    obtain ⟨s', hs, heq⟩ := map_eq_ok.1 hres.symm
    cases heq
    exact kind_of_wait hp hc hs
  | refused ha =>
    cases hres
    exact .failed ha ⟨⟨rfl, rfl⟩, rfl⟩
  | late ha =>
    cases hres
    exact .failed ha ⟨⟨rfl, rfl⟩, rfl⟩
  | answered ha hm ho ht hplain =>
    rename_i o r
    rcases settle_plain (c := c) (n := n) hplain o with ⟨f, hsettle, -⟩ | ⟨fields, -, hd, hsettle⟩
    · rw [hsettle] at hres
      cases hres
      exact .failed ha ⟨⟨rfl, rfl⟩, rfl⟩
    · rw [hsettle] at hres
      cases hres
      exact .passed (Or.inr ha) ⟨⟨rfl, rfl⟩, rfl,
        (Json.Fields.denies_merge (orderOf_denies ho) hd).getD⟩

/-- Running a node gives a step of the node, at the time of the context. -/
theorem NodeRan.step {s : Step} {c' : Context} {xs : List Exchange}
    (hr : NodeRan P h c n (.ok (s, c')) xs) : ∃ status output, s = c.step n status output := by
  generalize hres : Except.ok (s, c') = res at hr
  cases hr with
  | trigger => cases hres; exact ⟨_, _, rfl⟩
  | blocked => cases hres
  | skipped => cases hres; exact ⟨_, _, rfl⟩
  | waited =>
    obtain ⟨s', hs, heq⟩ := map_eq_ok.1 hres.symm
    cases heq
    obtain ⟨output, rfl⟩ := stepOfWait_step hs
    exact ⟨_, _, rfl⟩
  | refused => cases hres; exact ⟨_, _, rfl⟩
  | late => cases hres; exact ⟨_, _, rfl⟩
  | answered =>
    unfold settle at hres
    split at hres
    · cases hres
      exact ⟨_, _, rfl⟩
    · dsimp only at hres
      split at hres
      · cases hres
        exact ⟨_, _, rfl⟩
      · cases hres
        exact ⟨_, _, rfl⟩

/-- Running a node changes nothing of the context but the channel of the last delivery. -/
theorem NodeRan.context {s : Step} {c' : Context} {xs : List Exchange}
    (hr : NodeRan P h c n (.ok (s, c')) xs) : ∃ ch, c' = { c with lastChannel := ch } := by
  have hafter : ∀ d, ∃ ch, c.after d = { c with lastChannel := ch } := by
    intro d
    cases d <;> exact ⟨_, rfl⟩
  generalize hres : Except.ok (s, c') = res at hr
  cases hr with
  | trigger => cases hres; exact ⟨_, rfl⟩
  | blocked => cases hres
  | skipped => cases hres; exact ⟨_, rfl⟩
  | waited =>
    obtain ⟨s', -, heq⟩ := map_eq_ok.1 hres.symm
    cases heq
    exact ⟨_, rfl⟩
  | refused => cases hres; exact ⟨_, rfl⟩
  | late => cases hres; exact ⟨_, rfl⟩
  | answered =>
    rename_i o r _ _ _ _ _
    unfold settle at hres
    split at hres
    · cases hres
      exact ⟨_, rfl⟩
    · cases hres
      exact hafter _

end Cadence
