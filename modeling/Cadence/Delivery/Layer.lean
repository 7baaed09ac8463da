/-
# The layer between runs and services

The settings decide where deliveries go. To the simulator go all of them by default. In the other
two modes a channel whose credentials are known goes to its connector, the other one to the
simulator, and handing a lead over means that an agent writes to it on the same channels.

Key definitions: `Layer`, `Layer.ofSettings`, `Layer.send`, `Layer.deliver`,
`Layer.collaborators`.
-/
import Cadence.Agent.Handover
import Cadence.Connector.Channel
import Cadence.Simulator.Basic

namespace Cadence

/-- Agents that write: what they are told, and the model that writes for them. -/
structure Agent.Office where
  profiles : Agent.Profiles
  query : Agent.Briefing → Agent.Query
  model : Agent.Query → Agent.Answer

/-- Where deliveries go: to connectors for emails and text messages, to agents for handing over, and
to a simulator for whatever has nothing else. -/
structure Layer where
  email : Option Connector.Mailgun
  sms : Option Connector.Twilio
  office : Option Agent.Office
  rules : Simulator.Rules

/-- What a layer has to do with: the network, the queries so far, and the simulator. -/
structure Layer.State where
  network : Http.Network
  queries : List Agent.Query
  simulator : Simulator.State
  deriving Inhabited

namespace Layer

/-- The layer that the settings ask for. -/
def ofSettings (s : Settings) (office : Agent.Office) (rules : Simulator.Rules) : Layer :=
  if s.mode = .simulator then ⟨none, none, none, rules⟩
  else
    ⟨some (Connector.Mailgun.ofSettings s) |>.filter Connector.Mailgun.isComplete,
      some (Connector.Twilio.ofSettings s) |>.filter Connector.Twilio.isComplete,
      some office, rules⟩

/-- Whether a layer may make requests. -/
def usesNetwork (l : Layer) : Bool := l.office.isSome

/-- The channels that go to connectors, in order. -/
def realChannels (l : Layer) : List String :=
  (l.email.map fun _ => "email").toList ++ (l.sms.map fun _ => "sms").toList

/-- The simulator's reply. -/
def simulate (l : Layer) (d : Delivery) (s : State) : Reply × State :=
  let (reply, simulator) := Simulator.deliver l.rules d s.simulator
  (reply, { s with simulator })

/-- Sends an email or a text message. -/
def send (l : Layer) (d : Delivery) (s : State) : Reply × State :=
  let exchanged (result : Reply × Http.Network) : Reply × State :=
    (result.1, { s with network := result.2 })
  match d, l.email, l.sms with
  | .email receiver subject body, some domain, _ =>
    exchanged (domain.deliver receiver subject body s.network)
  | .sms receiver message, _, some account =>
    exchanged (account.deliver receiver message s.network)
  | d, _, _ => l.simulate d s

/-- Hands a lead over to an agent. -/
def handOver (l : Layer) (o : Agent.Office) (agentId notes : Json) (lead : Json.Fields)
    (s : State) : Reply × State :=
  match Agent.brief o.profiles agentId notes lead with
  | .error failure => (.failed failure, s)
  | .ok briefing =>
    let query := o.query briefing
    let s := { s with queries := s.queries ++ [query] }
    (Agent.answer agentId lead (o.model query).reply).run ⟨l.send, true⟩ s

/-- Makes a delivery. -/
def deliver (l : Layer) (d : Delivery) (s : State) : Reply × State :=
  match d, l.office with
  | .handoff agentId notes lead, some office => l.handOver office agentId notes lead s
  | d, _ => l.send d s

/-- The layer as the collaborators of a run. -/
def collaborators (l : Layer) : Collaborators State := ⟨l.deliver, true⟩

end Layer
end Cadence
