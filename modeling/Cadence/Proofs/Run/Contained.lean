/-
# Where the messages of a run go

Overrides are to keep a trial run from anybody else. Over the simulator every message of a run is
one of its deliveries that was answered (`run_sends`). Where both overrides are given, an email goes
to the one and a text message to the other; a lead that is handed over, though, is written to at its
own number, or else at its own address (`run_contained`). So a run stays with its overrides if no
handover is accepted, and only by chance otherwise (`handed_over_to_the_lead`).

Key definitions: `Simulator.Became`, `Lead.ownAddress`, `Overrides.Covers`.
Key theorems: `Simulator.run_sends`, `Asked.addressed`, `run_contained`.
-/
import Cadence.Proofs.Run.Asked
import Cadence.Proofs.Run.Channel
import Cadence.Simulator.Basic

namespace Cadence

/-! ### The outbox of a run -/

namespace Simulator

/-- A delivery that was asked for became a message in the outbox. -/
def Became (x : Exchange) (m : Message) : Prop :=
  ∃ id, (Draft.ofDelivery x.delivery).message id (channelName x.delivery.action) = .ok m

/-- The simulator puts a delivery into the outbox exactly if it comes back from it. -/
theorem deliver_sends (rules : Rules) (d : Delivery) (s : State) : ∃ sent,
    (deliver rules d s).2.outbox = s.outbox ++ sent ∧
      List.Forall₂ Became ([⟨d, (deliver rules d s).1⟩].filter (·.reply.isReturned)) sent := by
  unfold deliver
  split
  · exact ⟨[], (List.append_nil _).symm, .nil⟩
  · dsimp only
    split
    · rename_i message hmessage
      exact ⟨[message], rfl, .cons ⟨_, hmessage⟩ .nil⟩
    · exact ⟨[], (List.append_nil _).symm, .nil⟩

/-- **A plan puts the calls that returned into the outbox**, one message for each, in order. -/
theorem run_sends {α : Type} (rules : Rules) (handsOver : Bool) : ∀ (p : Plan α) (s : State),
    ∃ sent, (p.run ⟨deliver rules, handsOver⟩ s).2.outbox = s.outbox ++ sent ∧
      List.Forall₂ Became ((p.calls ⟨deliver rules, handsOver⟩ s).filter (·.reply.isReturned)) sent
  | .done a, s => ⟨[], (List.append_nil _).symm, .nil⟩
  | .ask d next, s => by
    obtain ⟨first, hfirst, hone⟩ := deliver_sends rules d s
    obtain ⟨rest, hrest, hall⟩ :=
      run_sends rules handsOver (next (deliver rules d s).1) (deliver rules d s).2
    refine ⟨first ++ rest, ?_, ?_⟩
    · rw [← List.append_assoc, ← hfirst]
      exact hrest
    · unfold Plan.calls
      rw [← List.singleton_append, List.filter_append]
      exact List.rel_append hone hall

/-- A message is on the channel it was drafted for, and goes to the receiver of the draft. -/
theorem Draft.message_ok {d : Draft} {id channel : String} {m : Message}
    (hm : d.message id channel = .ok m) : m.channel = channel ∧ d.receiver = .str m.receiver := by
  unfold Draft.message at hm
  obtain ⟨f, body, hf, -, rfl⟩ := Checked.seq_eq_ok.1 hm
  obtain ⟨g, subject, hg, -, rfl⟩ := Checked.seq_eq_ok.1 hf
  obtain ⟨receiver, hreceiver, rfl⟩ := Checked.map_eq_ok.1 hg
  refine ⟨rfl, ?_⟩
  unfold Decode.text at hreceiver
  split at hreceiver
  · rename_i s heq
    split at hreceiver
    · cases hreceiver
    · cases hreceiver
      exact heq
  · cases hreceiver

end Simulator

/-! ### Receivers -/

/-- Where an agent writes to a lead: the phone number, or else the email address. -/
def Lead.ownAddress (lead : Lead) : String :=
  ((lead.phone.filter (· ≠ "")).or (lead.email.filter (· ≠ ""))).getD ""

namespace Overrides

/-- Both overrides are given. -/
structure Complete (o : Overrides) : Prop where
  email : Text.trim (o.email.getD "") ≠ ""
  sms : Text.trim (o.sms.getD "") ≠ ""

instance (o : Overrides) : Decidable o.Complete :=
  decidable_of_iff (Text.trim (o.email.getD "") ≠ "" ∧ Text.trim (o.sms.getD "") ≠ "")
    ⟨fun h => ⟨h.1, h.2⟩, fun h => ⟨h.email, h.sms⟩⟩

/-- A receiver is one of the overrides. -/
def Covers (o : Overrides) (receiver : String) : Prop :=
  receiver = Text.trim (o.email.getD "") ∨ receiver = Text.trim (o.sms.getD "")

instance (o : Overrides) (receiver : String) : Decidable (o.Covers receiver) :=
  inferInstanceAs (Decidable (_ ∨ _))

end Overrides

theorem recipient_override {word : String} {override configured own : Option String}
    (h : Text.trim (override.getD "") ≠ "") :
    recipient word override configured own = Text.trim (override.getD "") := by
  unfold recipient
  dsimp only
  rw [if_pos h]

theorem truthy?_ofText? (o : Option String) :
    (Json.ofText? o).truthy? = (o.filter (· ≠ "")).map .str := by
  cases o with
  | none => rfl
  | some s =>
    unfold Json.ofText? Json.truthy? Json.isTruthy
    by_cases hs : s = "" <;> simp [hs, Option.filter]

/-- The document of a lead that is handed over has the lead's own texts. -/
theorem getD_leadForAgent (c : Context) {key : String} {o : Option String} (hkey : key ≠ "channel")
    (ho : Json.Fields.get? c.lead.fields key = some (.ofText? o)) :
    Json.Fields.getD (leadForAgent c) key = .ofText? o := by
  have hget : ∀ x, Json.Fields.get? ({ c.lead with channel := x } : Lead).fields key =
      some (.ofText? o) := by
    intro x
    rw [← ho]
    simp [Lead.fields, Json.Fields.get?, List.find?_cons, hkey.symm]
  unfold Json.Fields.getD leadForAgent
  dsimp only
  rw [Json.get?_dropNulls, hget, Json.filter_ofText?]
  · cases o <;> rfl
  · show (["name", "email", "phone", "contactId", "conversationId", "channel",
      "lastMessage"] : List String).Nodup
    decide

/-- A lead that is handed over is written to at its own address. -/
theorem receiver_leadForAgent (agentId notes : Json) (c : Context) :
    (Simulator.Draft.ofDelivery (.handoff agentId notes (leadForAgent c))).receiver =
      .str c.lead.ownAddress := by
  have hphone : Json.Fields.getD (leadForAgent c) "phone" = .ofText? c.lead.phone :=
    getD_leadForAgent c (by decide) rfl
  have hemail : Json.Fields.getD (leadForAgent c) "email" = .ofText? c.lead.email :=
    getD_leadForAgent c (by decide) rfl
  unfold Simulator.Draft.ofDelivery Lead.ownAddress
  dsimp only
  rw [hphone, hemail, truthy?_ofText?, truthy?_ofText?]
  cases c.lead.phone.filter (· ≠ "") <;> cases c.lead.email.filter (· ≠ "") <;> rfl

/-- What a run with both overrides asks for: emails and text messages go to the overrides, and only
a node that hands the lead over asks for anything else. -/
inductive Addressed (c : Context) (nodes : List Chain.Node) : Delivery → Prop
  | email (subject body : Json) :
      Addressed c nodes (.email (.str (Text.trim (c.overrides.email.getD ""))) subject body)
  | sms (body : Json) :
      Addressed c nodes (.sms (.str (Text.trim (c.overrides.sms.getD ""))) body)
  | handoff (agentId notes : Json) (last : Option String) : (∃ n ∈ nodes, n.HandsOver) →
      Addressed c nodes (.handoff agentId notes (leadForAgent (c.withLast last)))

/-- **Overrides win over every recipient of an email or a text message.** -/
theorem Asked.addressed {h : Bool} {c : Context} {nodes : List Chain.Node} {d : Delivery}
    (ha : Asked h c nodes d) (hc : c.overrides.Complete) : Addressed c nodes d := by
  obtain ⟨n, hn, -, -, last, o, ho, rfl⟩ := ha
  cases ordered_of_orderOf ho with
  | @email _ _ subject body given =>
    have hto : emailRecipient given (c.withLast last).overrides (c.withLast last).lead =
        Text.trim (c.overrides.email.getD "") := recipient_override hc.email
    rw [hto]
    exact .email _ _
  | @sms _ body given =>
    have hto : smsRecipient given (c.withLast last).overrides (c.withLast last).lead =
        Text.trim (c.overrides.sms.getD "") := recipient_override hc.sms
    rw [hto]
    exact .sms _
  | agent hconfig => exact .handoff _ _ last ⟨n, hn, _, _, hconfig⟩

/-! ### Messages of a run -/

/-- Where a message of a run with both overrides goes. -/
inductive Receives (c : Context) (nodes : List Chain.Node) (m : Simulator.Message) : Prop
  | email : m.channel = "email" → m.receiver = Text.trim (c.overrides.email.getD "") →
      Receives c nodes m
  | sms : m.channel = "sms" → m.receiver = Text.trim (c.overrides.sms.getD "") →
      Receives c nodes m
  | agent : m.channel = "agent" → m.receiver = c.lead.ownAddress → (∃ n ∈ nodes, n.HandsOver) →
      Receives c nodes m

theorem Addressed.receives {c : Context} {nodes : List Chain.Node} {x : Exchange}
    {m : Simulator.Message} (ha : Addressed c nodes x.delivery) (hm : Simulator.Became x m) :
    Receives c nodes m := by
  obtain ⟨id, hm⟩ := hm
  obtain ⟨hchannel, hreceiver⟩ := Simulator.Draft.message_ok hm
  generalize x.delivery = d at ha hchannel hreceiver
  cases ha with
  | email => exact .email hchannel (Json.str.inj hreceiver).symm
  | sms => exact .sms hchannel (Json.str.inj hreceiver).symm
  | handoff agentId notes last hn =>
    rw [receiver_leadForAgent] at hreceiver
    exact .agent hchannel (Json.str.inj hreceiver).symm hn

/-- **A run over the simulator keeps to its overrides but for handovers.** Where both overrides are
given, each message it puts into the outbox is an email to the one, a text message to the other, or
that of an agent to whom a node of the workflow's line hands the lead over, and the agent writes to
the lead itself. So all messages go to the overrides exactly if no agent writes, or the lead's own
address is an override. -/
theorem run_contained (w : Runnable) (o : RunOptions) (rules : Simulator.Rules) (handsOver : Bool)
    (s : Simulator.State) (ho : o.overrides.Complete) :
    ∃ sent, ((w.run handsOver o).run ⟨Simulator.deliver rules, handsOver⟩ s).2.outbox =
        s.outbox ++ sent ∧
      (∀ m ∈ sent, ∃ line window, w.resolve o.sendWindow = .ok (line, window) ∧
        Receives (o.context window) line.nodes m) ∧
      ((∀ m ∈ sent, o.overrides.Covers m.receiver) ↔
        (∃ m ∈ sent, m.channel = "agent") → o.overrides.Covers o.lead.normalized.ownAddress) := by
  obtain ⟨sent, hout, hsent⟩ := Simulator.run_sends rules handsOver (w.run handsOver o) s
  have hcomes := Plan.comesTo_run
    (Collaborators.reply_any ⟨Simulator.deliver rules, handsOver⟩) (w.run handsOver o) s
  have hreceives : ∀ m ∈ sent, ∃ line window, w.resolve o.sendWindow = .ok (line, window) ∧
      Receives (o.context window) line.nodes m := by
    intro m hm
    obtain ⟨x, hx, hbecame⟩ := exists_of_mem_right hsent hm
    obtain ⟨line, window, hline, hasked⟩ := run_asked hcomes x (List.mem_filter.1 hx).1
    have haddressed : Addressed (o.context window) line.nodes x.delivery := hasked.addressed ho
    exact ⟨line, window, hline, haddressed.receives hbecame⟩
  refine ⟨sent, hout, hreceives, ?_, ?_⟩
  · rintro hall ⟨m, hm, hagent⟩
    obtain ⟨line, window, -, hr⟩ := hreceives m hm
    have hcovers := hall m hm
    cases hr with
    | email hchannel => exact absurd (hagent.symm.trans hchannel) (by decide)
    | sms hchannel => exact absurd (hagent.symm.trans hchannel) (by decide)
    | agent _ hreceiver =>
      rw [hreceiver] at hcovers
      exact hcovers
  · intro hagent m hm
    obtain ⟨line, window, -, hr⟩ := hreceives m hm
    cases hr with
    | email _ hreceiver => exact Or.inl hreceiver
    | sms _ hreceiver => exact Or.inr hreceiver
    | agent hchannel hreceiver =>
      rw [hreceiver]
      exact hagent ⟨m, hm, hchannel⟩

/-! ### A trial -/

namespace Trial

/-- A lead with a number and an address of its own. -/
def lead : Lead :=
  { Lead.unknown with email := some "ada@example.org", phone := some "+32470000001" }

/-- Overrides for both channels. -/
def overrides : Overrides := ⟨some " qa@example.org ", some "+3000"⟩

/-- A run for the lead with the overrides. -/
def options : RunOptions :=
  { RunOptions.plain "execution-id" ⟨0, some 0⟩ with lead, overrides, ignoreSendWindow := true }

/-- Nodes behind a trigger. -/
def chain (nodes : List Chain.Node) : Chain :=
  let start : Chain.Node := ⟨"start", "manual-trigger", .trigger⟩
  ⟨start, start :: nodes⟩

/-- The outbox after a run of nodes behind a trigger. -/
def outbox (nodes : List Chain.Node) : List Simulator.Message :=
  (((Runnable.chain (chain nodes)).run true options).run
    ⟨Simulator.deliver .none, true⟩ .fresh).2.outbox

/-- An email to an address of its own, and a text message to the lead. -/
def mailAndText : List Chain.Node :=
  [⟨"mail", "send-email", .email "Hello" "Hi" (some "sales@example.org")⟩,
    ⟨"text", "send-sms", .sms "Hi" none⟩]

/-- A handover. -/
def handover : List Chain.Node := [⟨"agent", "agent-handoff", .agent "closer" none⟩]

end Trial

/-- An email and a text message go to the overrides, whatever the nodes and the lead have. -/
theorem run_contained_mail_and_text :
    Trial.overrides.Complete ∧ (Trial.outbox Trial.mailAndText).length = 2 ∧
      ∀ m ∈ Trial.outbox Trial.mailAndText, Trial.overrides.Covers m.receiver := by
  have hcomplete : Trial.options.overrides.Complete := by decide +kernel
  refine ⟨hcomplete, by decide +kernel, ?_⟩
  obtain ⟨sent, hout, hsent, hiff⟩ := run_contained
    (.chain (Trial.chain Trial.mailAndText)) Trial.options .none true .fresh hcomplete
  have hsame : Trial.outbox Trial.mailAndText = sent := hout
  rw [hsame]
  refine hiff.2 ?_
  rintro ⟨m, hm, hagent⟩
  obtain ⟨line, window, hline, hr⟩ := hsent m hm
  cases hline
  cases hr with
  | email hchannel => exact absurd (hagent.symm.trans hchannel) (by decide)
  | sms hchannel => exact absurd (hagent.symm.trans hchannel) (by decide)
  | agent _ _ hnode =>
    obtain ⟨n, hn, agentId, notes, hconfig⟩ := hnode
    have hnone : ∀ n ∈ (Trial.chain Trial.mailAndText).nodes, n.config.kind ≠ "agent" := by
      decide +kernel
    exact absurd (congrArg Chain.Config.kind hconfig) (hnone n hn)

/-- **A trial writes to the lead itself**: the agent's message goes to the lead's own number, which
is neither of the overrides. -/
theorem handed_over_to_the_lead :
    Trial.overrides.Complete ∧
      (Trial.outbox Trial.handover).map (fun m => (m.channel, m.receiver)) =
        [("agent", "+32470000001")] ∧
      ¬ Trial.overrides.Covers "+32470000001" := by
  decide +kernel

end Cadence
