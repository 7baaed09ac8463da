/-
# Whom a stand-in for an agent writes to

An agent that takes a lead over writes on the channel that the lead's document names, and fails if
the lead has no address there (`took_run`). The simulator stands in for agents. It is told the same
channel and reports it, but writes to the lead's phone number, to the email address only if there is
no number, and to the empty address if there is neither (`deliver_handoff`). So it agrees with an
agent exactly where the lead has an address on the channel and no number besides (`agree_iff`).

Key definitions: `Lead.addressOn`, `takeOver`, `Took`, `Agree`.
Key theorems: `Layer.handOver_eq`, `took_run`, `Simulator.deliver_handoff`, `agree_iff`.
-/
import Cadence.Delivery.Layer
import Cadence.Proofs.Simulator.Accounted

namespace Cadence

/-! ### Addresses of a lead -/

namespace Lead

/-- The address of a lead on a channel. -/
def addressOn (lead : Lead) : Channel → Option String
  | .sms => lead.phone.filter (· ≠ "")
  | .email => lead.email.filter (· ≠ "")

/-- The simulator writes to an address on a channel unless there is another phone number. -/
theorem ownAddress_eq_iff {lead : Lead} {channel : Channel} {address : String}
    (h : lead.addressOn channel = some address) :
    lead.ownAddress = address ↔ ∀ number, lead.addressOn .sms = some number → number = address := by
  have hown : lead.ownAddress = ((lead.addressOn .sms).or (lead.addressOn .email)).getD "" := rfl
  cases channel with
  | sms =>
    rw [hown, h]
    exact iff_of_true rfl fun number hnumber => (Option.some.inj hnumber).symm
  | email =>
    rw [hown, h]
    cases lead.addressOn .sms with
    | none => exact iff_of_true rfl fun number hnumber => absurd hnumber (by simp)
    | some number => simp

theorem IsWhole.ownAddress {lead : Lead} (h : lead.IsWhole) :
    Text.Half.isIn lead.ownAddress = false := by
  have hfilter : ∀ {o : Option String}, Whole o → Whole (o.filter (· ≠ "")) :=
    fun ho s hs => ho s (Option.mem_filter_iff.1 hs).1
  unfold Lead.ownAddress
  cases heq : (lead.phone.filter (· ≠ "")).or (lead.email.filter (· ≠ "")) with
  | none => rfl
  | some s => exact (hfilter h.phone).or (hfilter h.email) s heq

end Lead

/-- The channel on which an agent answers in a context. -/
def Context.answersOn (c : Context) : Channel := handoffChannel c.lead c.lastChannel

/-- A delivery goes to an address. -/
def Delivery.GoesTo (d : Delivery) (address : String) : Prop :=
  Json.Fields.get? d.arguments "to" = some (.str address)

namespace Reply

/-- A delivery failed because there was nobody to deliver to. -/
def IsUnaddressed (r : Reply) : Prop := ∃ why, r = .failed (.recipient why)

/-- A reply reports a value under a name. -/
def Reports (r : Reply) (key : String) (value : Json) : Prop :=
  ∃ fields, r = .returned (.obj fields) ∧ Json.Fields.get? fields key = some value

end Reply

variable {c : Context} {agentId notes : Json}

theorem getD_channel (c : Context) :
    Json.Fields.getD (leadForAgent c) "channel" = .str c.answersOn.name := by
  unfold Json.Fields.getD
  rw [get?_leadForAgent]
  rfl

namespace Agent

/-! ### An agent that writes -/

/-- What handing a lead over to an agent comes to: it is told what it has to know, writes, and what
it wrote is sent. -/
def takeOver (p : Profiles) (write : Briefing → Except Failure String) (agentId notes : Json)
    (lead : Json.Fields) : Plan Reply :=
  match brief p agentId notes lead with
  | .error failure => .done (.failed failure)
  | .ok briefing => answer agentId lead (write briefing)

/-- A text for an address on a channel. -/
def messageOn (text address : String) : Channel → Delivery
  | .sms => .sms (.str address) (.str text)
  | .email => .email (.str address) (.str subject) (.str text)

theorem goesTo_messageOn (text address : String) (channel : Channel) :
    (messageOn text address channel).GoesTo address := by
  cases channel <;> rfl

/-- **An agent writes on the channel that the context decided on.** -/
theorem channelOf_leadForAgent (c : Context) :
    channelOf (leadForAgent c) = .str c.answersOn.name := by
  unfold channelOf
  rw [getD_channel]
  cases c.answersOn <;> rfl

/-- What is written goes to the lead's address on that channel, or to nobody. -/
theorem message_leadForAgent (c : Context) (text : String) :
    (∃ address, c.lead.addressOn c.answersOn = some address ∧
      message (leadForAgent c) text = .ok (messageOn text address c.answersOn)) ∨
    c.lead.addressOn c.answersOn = none ∧
      ∃ why, message (leadForAgent c) text = .error (.recipient why) := by
  have hphone : Json.Fields.getD (leadForAgent c) "phone" = .ofText? c.lead.phone :=
    getD_leadForAgent c (by decide) rfl
  have hemail : Json.Fields.getD (leadForAgent c) "email" = .ofText? c.lead.email :=
    getD_leadForAgent c (by decide) rfl
  unfold message Lead.addressOn
  rw [channelOf_leadForAgent, hphone, hemail, truthy?_ofText?, truthy?_ofText?]
  cases c.answersOn with
  | sms =>
    rw [if_neg (by decide)]
    cases c.lead.phone.filter (· ≠ "") with
    | none => exact Or.inr ⟨rfl, _, rfl⟩
    | some number => exact Or.inl ⟨number, rfl, rfl⟩
  | email =>
    rw [if_pos (by decide)]
    cases c.lead.email.filter (· ≠ "") with
    | none => exact Or.inr ⟨rfl, _, rfl⟩
    | some address => exact Or.inl ⟨address, rfl, rfl⟩

/-- What handing a lead over to an agent that writes comes to, and what is asked for on the way. -/
inductive Took (p : Profiles) (c : Context) (agentId : Json) : Reply → List Exchange → Prop
  | untold {failure : Failure} : p.load agentId.display = .error failure →
      Took p c agentId (.failed failure) []
  | unaddressed {profile why : String} : p.load agentId.display = .ok profile →
      c.lead.addressOn c.answersOn = none → Took p c agentId (.failed (.recipient why)) []
  | wrote {profile text address : String} {value : Json} : p.load agentId.display = .ok profile →
      c.lead.addressOn c.answersOn = some address →
      Took p c agentId (.returned (receipt agentId (leadForAgent c) text value))
        [⟨messageOn text address c.answersOn, .returned value⟩]

section
variable {p : Profiles} {write : Briefing → Except Failure String}

theorem takeOver_untold {failure : Failure} (h : p.load agentId.display = .error failure)
    (lead : Json.Fields) : takeOver p write agentId notes lead = .done (.failed failure) := by
  unfold takeOver brief
  rw [h]
  rfl

/-- An agent that can be told what it has to know and that writes something sends what it wrote. -/
theorem takeOver_told {profile : String} (h : p.load agentId.display = .ok profile)
    (hwrite : ∀ b, ∃ text, write b = .ok text ∧ text ≠ "") (lead : Json.Fields) :
    ∃ text, takeOver p write agentId notes lead =
      match message lead text with
      | .error failure => .done (.failed failure)
      | .ok delivery => .ask delivery fun
        | .returned value => .done (.returned (receipt agentId lead text value))
        | other => .done other := by
  obtain ⟨text, htext, hne⟩ := hwrite ⟨promptFor notes lead (channelOf lead), profile⟩
  have hmessage : messageFor agentId lead (.ok text) = (message lead text).map (text, ·) := by
    show (if text = "" then _ else _) = _
    rw [if_neg hne]
    cases message lead text <;> rfl
  refine ⟨text, ?_⟩
  unfold takeOver brief
  rw [h]
  show answer agentId lead (write ⟨promptFor notes lead (channelOf lead), profile⟩) = _
  rw [htext]
  unfold answer
  rw [hmessage]
  cases message lead text <;> rfl

variable {σ : Type} {k : Collaborators σ} {w : σ}

/-- **An agent that writes something sends one message or none**: it goes to the lead's address on
the channel, and there is none only if the lead has no address there, or the agent's profile cannot
be looked up. -/
theorem took_run (hwrite : ∀ b, ∃ text, write b = .ok text ∧ text ≠ "")
    (hk : ∀ x ∈ (takeOver p write agentId notes (leadForAgent c)).calls k w,
      x.reply.isReturned = true) :
    Took p c agentId ((takeOver p write agentId notes (leadForAgent c)).run k w).1
      ((takeOver p write agentId notes (leadForAgent c)).calls k w) := by
  cases hload : p.load agentId.display with
  | error failure =>
    rw [takeOver_untold hload]
    exact .untold hload
  | ok profile =>
    obtain ⟨text, hplan⟩ := takeOver_told hload hwrite (leadForAgent c)
    rw [hplan] at hk ⊢
    rcases message_leadForAgent c text with ⟨address, haddress, hmessage⟩ | ⟨hnone, why, hmessage⟩
    · rw [hmessage] at hk ⊢
      have hreturned := hk _ List.mem_cons_self
      dsimp only [Plan.run, Plan.calls] at hreturned ⊢
      cases hreply : (k.deliver (messageOn text address c.answersOn) w).1 with
      | returned value => exact .wrote hload haddress
      | failed | hung =>
        rw [hreply] at hreturned
        cases hreturned
    · rw [hmessage]
      exact .unaddressed hload hnone

end

end Agent

/-- **A layer hands leads over as agents do**, and writes down the query besides. -/
theorem Layer.handOver_eq (l : Layer) (o : Agent.Office) (agentId notes : Json)
    (lead : Json.Fields) (s : Layer.State) :
    l.handOver o agentId notes lead s =
      (Agent.takeOver o.profiles (fun b => (o.model (o.query b)).reply) agentId notes lead).run
        ⟨l.send, true⟩ { s with
          queries := s.queries ++
            (Agent.brief o.profiles agentId notes lead).toOption.toList.map o.query } := by
  unfold handOver Agent.takeOver
  cases Agent.brief o.profiles agentId notes lead with
  | error failure =>
    show _ = (_, { s with queries := s.queries ++ [] })
    rw [List.append_nil]
  | ok briefing => rfl

/-! ### The simulator in its place -/

theorem Text.isIn_append (s t : String) :
    Half.isIn (s ++ t) = (Half.isIn s || Half.isIn t) := by
  unfold Half.isIn
  rw [String.toList_append, List.any_append]

namespace Simulator

/-- A lead that is handed over makes a proper message. -/
theorem isProper_handoff (hlead : c.lead.IsWhole) (agentId notes : Json) :
    (Draft.ofDelivery (.handoff agentId notes (leadForAgent c))).IsProper where
  receiver := by
    rw [receiver_leadForAgent]
    exact hlead.ownAddress
  subject := Or.inl rfl
  body := by
    have hname : Json.Fields.getD (leadForAgent c) "name" = .ofText? c.lead.name :=
      getD_leadForAgent c (by decide) rfl
    show Text.Half.isIn (cannedReply (leadForAgent c)) = false
    unfold cannedReply
    rw [hname, truthy?_ofText?, Text.isIn_append, Text.isIn_append]
    cases hfilter : c.lead.name.filter (· ≠ "") with
    | none => decide
    | some name =>
      have hwhole : Text.Half.isIn name = false :=
        hlead.name name (Option.mem_filter_iff.1 hfilter).1
      show (Text.Half.isIn "Hi " || Text.Half.isIn name || _) = false
      rw [hwhole]
      decide

/-- **The simulator takes every lead over**, writes to the lead's own address, and names the channel
that the context decided on. -/
theorem deliver_handoff {rules : Rules} (hrules : rules.get? .handoff = .none)
    (hlead : c.lead.IsWhole) (agentId notes : Json) (s : State) : ∃ m reply,
    deliver rules (.handoff agentId notes (leadForAgent c)) s =
      (reply, ⟨s.outbox ++ [m], s.numbered + 1, s.tally⟩) ∧
    m.receiver = c.lead.ownAddress ∧ reply.Reports "agentId" agentId ∧
      reply.Reports "channel" (.str c.answersOn.name) := by
  have hproper := isProper_handoff hlead agentId notes
  obtain ⟨m, hm⟩ := (Draft.isProper_iff (messageId (channelName .handoff) (s.numbered + 1))
    (channelName .handoff)).1 hproper
  have hreceiver := (Draft.message_ok hm).2
  rw [receiver_leadForAgent] at hreceiver
  refine ⟨m, .returned (.obj (receipt (messageId (channelName .handoff) (s.numbered + 1))
    (.handoff agentId notes (leadForAgent c)))), ?_, (Json.str.inj hreceiver).symm,
    ⟨_, rfl, rfl⟩, ⟨_, rfl, ?_⟩⟩
  · unfold deliver
    dsimp only [Delivery.action]
    rw [Rules.check_of_none hrules]
    dsimp only
    rw [hm]
  · rw [← getD_channel]
    rfl

end Simulator

/-! ### Agreement -/

namespace Agent

/-- What a handover comes to is the same with an agent, who asked for some deliveries, and with the
simulator, which stored some messages: either there was nobody to write to, or both wrote one
message to one address, and report the same agent and the same channel. -/
structure Agree (agent : Reply) (asked : List Exchange) (simulator : Reply)
    (stored : List Simulator.Message) : Prop where
  unaddressed : simulator.IsUnaddressed ↔ agent.IsUnaddressed
  addressed : ¬ agent.IsUnaddressed → ∃ x m, asked = [x] ∧ stored = [m] ∧
    x.delivery.GoesTo m.receiver
  reported : ¬ agent.IsUnaddressed → ∀ key ∈ ["agentId", "channel"], ∃ value,
    agent.Reports key value ∧ simulator.Reports key value

variable {p : Profiles}

/-- What an agent does agrees with a message of the simulator to the lead's own address if the agent
wrote to this address. -/
theorem Took.agrees_iff {agent : Reply} {asked : List Exchange} (h : Took p c agentId agent asked)
    {reply : Reply} {m : Simulator.Message} (hreceiver : m.receiver = c.lead.ownAddress)
    (hagent : reply.Reports "agentId" agentId)
    (hchannel : reply.Reports "channel" (.str c.answersOn.name)) :
    Agree agent asked reply [m] ↔
      (∃ profile, p.load agentId.display = .ok profile) ∧
        ∃ address, c.lead.addressOn c.answersOn = some address ∧ c.lead.ownAddress = address := by
  have hsimulated : ¬ reply.IsUnaddressed := by
    rintro ⟨why, rfl⟩
    obtain ⟨fields, hfields, -⟩ := hagent
    cases hfields
  cases h with
  | untold hload =>
    refine iff_of_false ?_ ?_
    · intro hagree
      obtain ⟨x, -, hx, -⟩ := hagree.addressed (hagree.unaddressed.not.1 hsimulated)
      cases hx
    · rintro ⟨⟨profile, hprofile⟩, -⟩
      cases hload.symm.trans hprofile
  | unaddressed hload hnone =>
    refine iff_of_false ?_ ?_
    · exact fun hagree => hsimulated (hagree.unaddressed.2 ⟨_, rfl⟩)
    · rintro ⟨-, address, haddress, -⟩
      cases hnone.symm.trans haddress
  | @wrote profile text address value hload haddress =>
    have hwritten :
        ¬ Reply.IsUnaddressed (.returned (receipt agentId (leadForAgent c) text value)) := by
      rintro ⟨why, hwhy⟩
      cases hwhy
    have hgoes := goesTo_messageOn text address c.answersOn
    constructor
    · intro hagree
      obtain ⟨x, m', hx, hm', hsame⟩ := hagree.addressed hwritten
      obtain rfl := List.singleton_inj.1 hx
      obtain rfl := List.singleton_inj.1 hm'
      refine ⟨⟨profile, hload⟩, address, haddress, ?_⟩
      rw [← hreceiver]
      exact Json.str.inj (Option.some.inj (hsame.symm.trans hgoes))
    · rintro ⟨-, address', haddress', hown⟩
      obtain rfl := Option.some.inj (haddress.symm.trans haddress')
      refine ⟨iff_of_false hsimulated hwritten, fun _ => ⟨_, m, rfl, rfl, ?_⟩, fun _ key hkey => ?_⟩
      · rw [hreceiver, hown]
        exact hgoes
      · rcases List.mem_pair.1 hkey with rfl | rfl
        · exact ⟨agentId, ⟨_, rfl, rfl⟩, hagent⟩
        · exact ⟨_, ⟨_, rfl, congrArg some (channelOf_leadForAgent c)⟩, hchannel⟩

/-- **The simulator stands in for an agent that writes exactly where the lead has an address on the
channel and no phone number besides**, and the agent's profile can be looked up. -/
theorem agree_iff {σ : Type} {write : Briefing → Except Failure String} {k : Collaborators σ}
    {w : σ} (hwrite : ∀ b, ∃ text, write b = .ok text ∧ text ≠ "")
    (hk : ∀ x ∈ (takeOver p write agentId notes (leadForAgent c)).calls k w,
      x.reply.isReturned = true)
    {rules : Simulator.Rules} (hrules : rules.get? .handoff = none) (hlead : c.lead.IsWhole)
    (s : Simulator.State) : ∃ stored,
    (Simulator.deliver rules (.handoff agentId notes (leadForAgent c)) s).2.outbox =
        s.outbox ++ stored ∧
      (Agree ((takeOver p write agentId notes (leadForAgent c)).run k w).1
          ((takeOver p write agentId notes (leadForAgent c)).calls k w)
          (Simulator.deliver rules (.handoff agentId notes (leadForAgent c)) s).1 stored ↔
        (∃ profile, p.load agentId.display = .ok profile) ∧
          ∃ address, c.lead.addressOn c.answersOn = some address ∧
            ∀ number, c.lead.addressOn .sms = some number → number = address) := by
  obtain ⟨m, reply, hdeliver, hreceiver, hagent, hchannel⟩ :=
    Simulator.deliver_handoff hrules hlead agentId notes s
  rw [hdeliver]
  refine ⟨[m], rfl, ((took_run hwrite hk).agrees_iff hreceiver hagent hchannel).trans ?_⟩
  refine and_congr_right fun _ => exists_congr fun address => and_congr_right fun haddress => ?_
  exact Lead.ownAddress_eq_iff haddress

/-! ### A text for who is emailed -/

namespace Sample

/-- A lead that can only be texted. -/
def texted : Lead := { Lead.unknown with phone := some "+32470000001" }

/-- A lead that is to be emailed and can be texted as well. -/
def emailed : Lead :=
  { texted with email := some "ada@example.org", channel := some .email }

/-- A lead is handed over before anything was sent to it. -/
def context (lead : Lead) : Context := RunOptions.context { Trial.options with lead } none

/-- What becomes of the lead with the simulator. -/
def simulated (lead : Lead) : Reply × Simulator.State :=
  Simulator.deliver .none (.handoff (.str "closer") .null (leadForAgent (context lead))) .fresh

/-- What becomes of it with an agent that has no profile of its own. -/
def handed (lead : Lead) : Plan Reply :=
  takeOver .standard (fun _ => .ok "See you soon") (.str "closer") .null
    (leadForAgent (context lead))

/-- What the agent sends its messages with. -/
def senders : Collaborators Simulator.State := ⟨Simulator.deliver .none, false⟩

end Sample

/-- A lead with nothing but a phone number is texted by both. -/
theorem agree_iff_texted : ∃ stored,
    (Sample.simulated Sample.texted).2.outbox = [] ++ stored ∧
      Agree ((Sample.handed Sample.texted).run Sample.senders .fresh).1
        ((Sample.handed Sample.texted).calls Sample.senders .fresh)
        (Sample.simulated Sample.texted).1 stored := by
  have hlead : (Sample.context Sample.texted).lead.IsWhole :=
    Lead.IsWhole.normalized ⟨.none, .none, .some (by decide), .none, .none, .none⟩
  have hsent : ∀ x ∈ (Sample.handed Sample.texted).calls Sample.senders .fresh,
      x.reply.isReturned = true := by
    decide +kernel
  have hrules : Simulator.Rules.none.get? .handoff = none := rfl
  obtain ⟨stored, hout, hagree⟩ :=
    agree_iff (fun _ => ⟨"See you soon", rfl, by decide⟩) hsent hrules hlead .fresh
  have haddress : (Sample.context Sample.texted).lead.addressOn
      (Sample.context Sample.texted).answersOn = some "+32470000001" := by
    decide +kernel
  have hprofile : ∃ profile, Profiles.standard.load (Json.str "closer").display = .ok profile :=
    ⟨_, rfl⟩
  refine ⟨stored, hout, hagree.2 ⟨hprofile, _, haddress, fun number hnumber => ?_⟩⟩
  exact Option.some.inj (hnumber.symm.trans haddress)

/-- **A lead that is to be emailed is texted by the simulator**, and a lead without any address is
refused by agents alone. -/
theorem emailed_lead_is_texted :
    ((Sample.handed Sample.emailed).calls Sample.senders .fresh).map (·.delivery) =
        [.email (.str "ada@example.org") (.str subject) (.str "See you soon")] ∧
      (Sample.simulated Sample.emailed).2.outbox.map (·.receiver) = ["+32470000001"] ∧
      ((Sample.handed .unknown).run Sample.senders .fresh).1 =
        .failed (.recipient "Agent handoff over SMS needs a lead phone number.") ∧
      (Sample.simulated .unknown).1.isReturned = true := by
  decide +kernel

end Agent
end Cadence
