/-
# The channel an agent answers on

Two journeys of a lead along the same nodes differ in nothing but the channel that the lead's
document names when the lead is handed over (`journey_apart`), because only that depends on the
channel of the last delivery. They are the same journey exactly if at every handover that is
reached the last deliveries of both name channels that come to the same (`journey_eq_iff`).

Without pauses the last delivery is the last before the node (`lastSent`). With a pause at every
wait it is the last behind the last wait (`sinceWait`).

Key definitions: `Delivery.apart`, `Reached`, `lastSent`, `sinceWait`.
Key theorems: `journey_apart`, `journey_arrives_iff`, `journey_eq_iff`, `lastBehind_pause`.
-/
import Cadence.Proofs.Lead.Stored
import Cadence.Proofs.Run.Legs
import Mathlib.Data.List.Induction

namespace Cadence

/-- A delivery without the channel in the document of a lead that is handed over. -/
def Delivery.apart : Delivery → Delivery
  | .handoff agentId notes lead => .handoff agentId notes (lead.filter (·.1 ≠ "channel"))
  | d => d

/-- The channel that a handover names. -/
def Delivery.channel? : Delivery → Option Json
  | .handoff _ _ lead => Json.Fields.get? lead "channel"
  | _ => none

variable {h : Bool} {c : Context} {n : Chain.Node}

/-! ### One node -/

/-- The document of a lead names the channel to answer on. -/
theorem get?_leadForAgent (c : Context) : (leadForAgent c).get? "channel" =
    some (.str (handoffChannel c.lead c.lastChannel).name) := by
  unfold leadForAgent
  rw [Json.get?_dropNulls]
  · simp [Lead.fields, Json.Fields.get?, Json.ofText?, Option.filter]
  · show (["name", "email", "phone", "contactId", "conversationId", "channel",
      "lastMessage"] : List String).Nodup
    decide

/-- But for the channel, the document of a lead does not depend on the last delivery. -/
theorem leadForAgent_apart (c : Context) (a b : Option String) :
    (leadForAgent (c.withLast a)).filter (·.1 ≠ "channel") =
      (leadForAgent (c.withLast b)).filter (·.1 ≠ "channel") := by
  have hothers : ∀ lead : Lead, ∀ x, ({ lead with channel := x } : Lead).fields.filter
      (·.1 ≠ "channel") = lead.fields.filter (·.1 ≠ "channel") := by
    intro lead x
    simp [Lead.fields]
  have hone : ∀ last, (leadForAgent (c.withLast last)).filter (·.1 ≠ "channel") =
      (Json.dropNulls c.lead.fields).filter (·.1 ≠ "channel") := by
    intro last
    show (Json.dropNulls ({ c.lead with channel := some (handoffChannel c.lead last) } :
      Lead).fields).filter (·.1 ≠ "channel") = _
    unfold Json.dropNulls
    rw [List.filter_comm, hothers, List.filter_comm]
  rw [hone a, hone b]

theorem leadForAgent_eq_iff (c : Context) (a b : Option String) :
    leadForAgent (c.withLast a) = leadForAgent (c.withLast b) ↔
      handoffChannel c.lead a = handoffChannel c.lead b := by
  constructor
  · intro heq
    have hget := congrArg (Json.Fields.get? · "channel") heq
    simp only [get?_leadForAgent] at hget
    have hname : (handoffChannel c.lead a).name = (handoffChannel c.lead b).name := by
      injection Option.some.inj hget
    cases ha : handoffChannel c.lead a <;> cases hb : handoffChannel c.lead b
    · rfl
    · rw [ha, hb] at hname
      exact absurd hname (by decide)
    · rw [ha, hb] at hname
      exact absurd hname (by decide)
    · rfl
  · intro heq
    unfold leadForAgent
    show Json.dropNulls ({ c.lead with channel := some (handoffChannel c.lead a) } : Lead).fields =
      Json.dropNulls ({ c.lead with channel := some (handoffChannel c.lead b) } : Lead).fields
    rw [heq]

/-- Whether a node hands the lead over. -/
def Chain.Node.HandsOver (n : Chain.Node) : Prop := ∃ agentId notes, n.config = .agent agentId notes

/-- A handover is asked for with the lead's document, if there is somebody to take it in time. -/
theorem request_agent {agentId : String} {notes : Option String}
    (hc : n.config = .agent agentId notes) (last : Option String) :
    (c.withLast last).request h n = if h && c.timeout.gtInt 0 then
      some (.handoff (.str agentId) (.ofText? notes) (leadForAgent (c.withLast last))) else none := by
  have ht : (c.withLast last).timeout = c.timeout := rfl
  unfold Context.request orderOf
  rw [hc, ht]
  cases h with
  | false => simp only [Bool.not_false, if_true, Bool.false_and, Bool.false_eq_true, if_false]
  | true => simp only [Bool.not_true, Bool.false_eq_true, if_false, Bool.true_and]

/-- What any other node asks for does not depend on the last delivery. -/
theorem request_other (hn : ¬ n.HandsOver) (a b : Option String) :
    (c.withLast a).request h n = (c.withLast b).request h n := by
  unfold Context.request orderOf
  cases hc : n.config with
  | agent agentId notes => exact absurd ⟨agentId, notes, hc⟩ hn
  | trigger => rfl
  | wait => rfl
  | email subject body receiver =>
    -- the test for a recipient is settled first: the two sides decide it for different contexts
    by_cases hr : emailRecipient receiver c.overrides c.lead = ""
    · have hr' : ∀ last, emailRecipient receiver (c.withLast last).overrides
          (c.withLast last).lead = "" := fun _ => hr
      simp only [if_pos (hr' _)]
      rfl
    · have hr' : ∀ last, emailRecipient receiver (c.withLast last).overrides
          (c.withLast last).lead ≠ "" := fun _ => hr
      simp only [if_neg (hr' _)]
      rfl
  | sms message receiver =>
    by_cases hr : smsRecipient receiver c.overrides c.lead = ""
    · have hr' : ∀ last, smsRecipient receiver (c.withLast last).overrides
          (c.withLast last).lead = "" := fun _ => hr
      simp only [if_pos (hr' _)]
      rfl
    · have hr' : ∀ last, smsRecipient receiver (c.withLast last).overrides
          (c.withLast last).lead ≠ "" := fun _ => hr
      simp only [if_neg (hr' _)]
      rfl

theorem request_isSome (a b : Option String) :
    ((c.withLast a).request h n).isSome = ((c.withLast b).request h n).isSome := by
  by_cases hn : n.HandsOver
  · obtain ⟨agentId, notes, hc⟩ := hn
    rw [request_agent hc, request_agent hc]
    split <;> rfl
  · rw [request_other hn]

theorem request_apart (a b : Option String) :
    ((c.withLast a).request h n).map Delivery.apart =
      ((c.withLast b).request h n).map Delivery.apart := by
  by_cases hn : n.HandsOver
  · obtain ⟨agentId, notes, hc⟩ := hn
    rw [request_agent hc, request_agent hc]
    split
    · rw [Option.map_some, Option.map_some, Delivery.apart, Delivery.apart,
        leadForAgent_apart c a b]
    · rfl
  · rw [request_other hn]

/-- A node asks for the same after two last deliveries if it hands nobody over, or if their channels
come to the same. -/
theorem request_eq_iff {a b : Option String} {d d' : Delivery}
    (hd : (c.withLast a).request h n = some d) (hd' : (c.withLast b).request h n = some d') :
    d = d' ↔ (n.HandsOver → handoffChannel c.lead a = handoffChannel c.lead b) := by
  by_cases hn : n.HandsOver
  · obtain ⟨agentId, notes, hc⟩ := id hn
    rw [request_agent hc] at hd hd'
    split at hd
    · rename_i hgo
      rw [if_pos hgo] at hd'
      rw [← Option.some.inj hd, ← Option.some.inj hd', Delivery.handoff.injEq,
        leadForAgent_eq_iff]
      exact ⟨fun heq _ => heq.2.2, fun heq => ⟨rfl, rfl, heq hn⟩⟩
    · cases hd
  · rw [request_other hn a b, hd'] at hd
    exact ⟨fun _ hh => absurd hh hn, fun _ => (Option.some.inj hd).symm⟩

/-! ### Journeys of one lead -/

/-- **But for the channel of handovers, journeys of one lead are the same.** -/
theorem journey_apart (f g : Option String → Option String) :
    ∀ (nodes : List Chain.Node) (a b : Option String),
      (journey h c f a nodes).deliveries.map Delivery.apart =
          (journey h c g b nodes).deliveries.map Delivery.apart ∧
        (journey h c f a nodes).waits = (journey h c g b nodes).waits ∧
        (journey h c f a nodes).arrives = (journey h c g b nodes).arrives
  | [], _, _ => ⟨rfl, rfl, rfl⟩
  | n :: rest, a, b => by
    rcases n.cases_config with hc | ⟨amount, unit, hc⟩ | ha
    · rw [journey_trigger hc, journey_trigger hc]
      exact journey_apart f g rest a b
    · obtain ⟨hd, hw, harr⟩ := journey_apart f g rest (f a) (g b)
      rw [journey_wait hc, journey_wait hc]
      exact ⟨hd, congrArg (· + 1) hw, harr⟩
    · have hapart := request_apart (h := h) (c := c) (n := n) a b
      cases hra : (c.withLast a).request h n with
      | none =>
        rw [hra, Option.map_none, eq_comm, Option.map_eq_none_iff] at hapart
        rw [journey_stuck ha hra, journey_stuck ha hapart]
        exact ⟨rfl, rfl, rfl⟩
      | some d =>
        rw [hra, Option.map_some, eq_comm, Option.map_eq_some_iff] at hapart
        obtain ⟨d', hrb, heq⟩ := hapart
        obtain ⟨hd, hw, harr⟩ := journey_apart f g rest (n.lastAfter a) (n.lastAfter b)
        rw [journey_action ha hra, journey_action ha hrb]
        refine ⟨?_, hw, harr⟩
        rw [List.map_cons, List.map_cons, heq, hd]

/-- The last delivery behind a node of a journey. -/
def Chain.Node.lastBehind (n : Chain.Node) (atWait : Option String → Option String)
    (last : Option String) : Option String :=
  match n.config with
  | .wait .. => atWait last
  | _ => n.lastAfter last

/-- The channel of the last delivery behind nodes. -/
def lastBehind (atWait : Option String → Option String) (last : Option String)
    (nodes : List Chain.Node) : Option String :=
  nodes.foldl (fun last n => n.lastBehind atWait last) last

/-- Nodes all of which have what it takes to ask for something, if they are to. -/
def Reached (h : Bool) (c : Context) (nodes : List Chain.Node) : Prop :=
  ∀ m ∈ nodes, m.isAction = true → (c.request h m).isSome = true

instance (nodes : List Chain.Node) : Decidable (Reached h c nodes) :=
  inferInstanceAs (Decidable (∀ m ∈ nodes, m.isAction = true → (c.request h m).isSome = true))

theorem reached_cons {nodes : List Chain.Node} :
    Reached h c (n :: nodes) ↔
      (n.isAction = true → (c.request h n).isSome = true) ∧ Reached h c nodes := by
  constructor
  · intro hr
    exact ⟨hr n List.mem_cons_self, fun m hm => hr m (List.mem_cons_of_mem _ hm)⟩
  · rintro ⟨hn, hr⟩ m hm
    rcases List.mem_cons.1 hm with rfl | hm
    · exact hn
    · exact hr m hm

/-- Whether a node is a wait. -/
def Chain.Node.isWait (n : Chain.Node) : Bool :=
  match n.config with
  | .wait .. => true
  | _ => false

/-- The last deliveries of two journeys name channels that come to the same at every handover that
is reached. -/
def SameChannels (h : Bool) (c : Context) (f g : Option String → Option String)
    (a b : Option String) (nodes : List Chain.Node) : Prop :=
  ∀ before n behind, nodes = before ++ n :: behind → Reached h c (before ++ [n]) →
    n.HandsOver →
      handoffChannel c.lead (lastBehind f a before) = handoffChannel c.lead (lastBehind g b before)

section
variable {f g : Option String → Option String} {a b : Option String} {rest : List Chain.Node}

theorem sameChannels_cons : SameChannels h c f g a b (n :: rest) ↔
    ((n.isAction = true → (c.request h n).isSome = true) → n.HandsOver →
        handoffChannel c.lead a = handoffChannel c.lead b) ∧
      ((n.isAction = true → (c.request h n).isSome = true) →
        SameChannels h c f g (n.lastBehind f a) (n.lastBehind g b) rest) := by
  have hsingle : Reached h c ([] ++ [n]) ↔
      (n.isAction = true → (c.request h n).isSome = true) := by
    rw [List.nil_append, reached_cons]
    exact ⟨And.left, fun hn => ⟨hn, fun m hm => absurd hm List.not_mem_nil⟩⟩
  constructor
  · intro hall
    refine ⟨fun hn => hall [] n rest rfl (hsingle.2 hn), ?_⟩
    rintro hn before m behind rfl hr
    exact hall (n :: before) m behind rfl (reached_cons.2 ⟨hn, hr⟩)
  · rintro ⟨hhead, hrest⟩ before m behind heq hr
    cases before with
    | nil =>
      obtain ⟨rfl, -⟩ := List.cons.inj heq
      exact hhead (hsingle.1 hr)
    | cons m' before =>
      obtain ⟨rfl, htail⟩ := List.cons.inj heq
      obtain ⟨hn, hr'⟩ := reached_cons.1 hr
      exact hrest hn before m behind htail hr'

/-- A node that is no action has no part in whether channels are the same. -/
theorem sameChannels_pass (ha : n.isAction = false) : SameChannels h c f g a b (n :: rest) ↔
    SameChannels h c f g (n.lastBehind f a) (n.lastBehind g b) rest := by
  have hhands : ¬ n.HandsOver := by
    rintro ⟨agentId, notes, hc⟩
    rw [Chain.Node.isAction, hc] at ha
    cases ha
  have hn : n.isAction = true → (c.request h n).isSome = true :=
    fun ht => absurd (ha.symm.trans ht) Bool.false_ne_true
  rw [sameChannels_cons]
  exact ⟨fun hs => hs.2 hn, fun hs => ⟨fun _ hh => absurd hh hhands, fun _ => hs⟩⟩

end

theorem Chain.Node.lastBehind_action (ha : n.isAction = true)
    (f : Option String → Option String) (last : Option String) :
    n.lastBehind f last = n.lastAfter last := by
  unfold lastBehind
  split
  · rename_i hc
    rw [isAction, hc] at ha
    cases ha
  · rfl

/-- **Journeys of one lead are the same exactly if all handovers that are reached name the same
channel.** -/
theorem journey_eq_iff (f g : Option String → Option String) :
    ∀ (nodes : List Chain.Node) (a b : Option String),
      (journey h c f a nodes).deliveries = (journey h c g b nodes).deliveries ↔
        SameChannels h c f g a b nodes
  | [], _, _ => by
    refine ⟨fun _ before n behind heq => ?_, fun _ => rfl⟩
    cases before <;> cases heq
  | n :: rest, a, b => by
    rcases n.cases_config with hc | ⟨amount, unit, hc⟩ | ha
    · have hsame : ∀ f last, n.lastBehind f last = last := by
        intro f last
        rw [Chain.Node.lastBehind, Chain.Node.lastAfter, hc]
      rw [journey_trigger hc, journey_trigger hc,
        sameChannels_pass (Chain.Node.not_action_of_trigger hc), hsame, hsame]
      exact journey_eq_iff f g rest a b
    · have hwait : ∀ f last, n.lastBehind f last = f last := by
        intro f last
        rw [Chain.Node.lastBehind, hc]
      rw [journey_wait hc, journey_wait hc,
        sameChannels_pass (Chain.Node.not_action_of_wait hc), hwait, hwait]
      exact journey_eq_iff f g rest (f a) (g b)
    · have hsome : ∀ last, ((c.withLast last).request h n).isSome = (c.request h n).isSome :=
        fun last => request_isSome last c.lastChannel
      rw [sameChannels_cons]
      cases hra : (c.withLast a).request h n with
      | none =>
        have hno : ¬ (n.isAction = true → (c.request h n).isSome = true) := by
          rw [← hsome a, hra]
          exact fun hn => Bool.false_ne_true (hn ha)
        have hrb : (c.withLast b).request h n = none := by
          rw [← Option.isNone_iff_eq_none, ← Option.not_isSome, hsome, ← hsome a, hra]
          rfl
        rw [journey_stuck ha hra, journey_stuck ha hrb]
        exact ⟨fun _ => ⟨fun hn => absurd hn hno, fun hn => absurd hn hno⟩, fun _ => rfl⟩
      | some d =>
        have hn : n.isAction = true → (c.request h n).isSome = true := by
          rw [← hsome a, hra]
          exact fun _ => rfl
        obtain ⟨d', hrb⟩ : ∃ d', (c.withLast b).request h n = some d' := by
          rw [← Option.isSome_iff_exists, hsome]
          exact hn ha
        rw [journey_action ha hra, journey_action ha hrb, List.cons.injEq,
          request_eq_iff hra hrb, journey_eq_iff f g rest, Chain.Node.lastBehind_action ha,
          Chain.Node.lastBehind_action ha]
        exact ⟨fun hs => ⟨fun _ => hs.1, fun _ => hs.2⟩, fun hs => ⟨hs.1 hn, hs.2 hn⟩⟩

/-! ### The last delivery -/

/-- The channel of the last email or text message among nodes that were passed, or a given one. -/
def lastSent (last : Option String) (nodes : List Chain.Node) : Option String :=
  nodes.foldl (fun last n => n.lastAfter last) last

/-- The nodes behind the last wait. -/
def sinceWait (nodes : List Chain.Node) : List Chain.Node :=
  (nodes.reverse.takeWhile fun n => !n.isWait).reverse

/-- Without pauses the last delivery is the last of all. -/
theorem lastBehind_id (last : Option String) (nodes : List Chain.Node) :
    lastBehind id last nodes = lastSent last nodes := by
  have hone : ∀ (n : Chain.Node) last, n.lastBehind id last = n.lastAfter last := by
    intro n last
    unfold Chain.Node.lastBehind Chain.Node.lastAfter
    split
    · rename_i hc
      rw [hc]
      rfl
    · rfl
  unfold lastBehind lastSent
  simp only [hone]

/-- **With a pause at every wait the last delivery is the last behind the last wait.** -/
theorem lastBehind_pause (last : Option String) (nodes : List Chain.Node) :
    lastBehind (fun _ => last) last nodes = lastSent last (sinceWait nodes) := by
  induction nodes using List.reverseRecOn with
  | nil => rfl
  | append_singleton nodes n ih =>
    have hstep : lastBehind (fun _ => last) last (nodes ++ [n]) =
        n.lastBehind (fun _ => last) (lastBehind (fun _ => last) last nodes) := by
      unfold lastBehind
      rw [List.foldl_append]
      rfl
    rw [hstep, ih]
    unfold sinceWait
    rw [List.reverse_append, List.reverse_singleton, List.singleton_append]
    cases hw : n.isWait with
    | true =>
      rw [List.takeWhile_cons_of_neg (by simp [hw]), List.reverse_nil]
      unfold Chain.Node.isWait at hw
      unfold Chain.Node.lastBehind
      split
      · rfl
      · rename_i hc
        split at hw
        · rename_i hc'
          exact absurd hc' (hc _ _)
        · cases hw
    | false =>
      rw [List.takeWhile_cons_of_pos (by simp [hw]), List.reverse_cons]
      unfold lastSent
      rw [List.foldl_append]
      unfold Chain.Node.isWait at hw
      unfold Chain.Node.lastBehind
      split
      · rename_i hc
        rw [hc] at hw
        cases hw
      · rfl

end Cadence
