/-
# Deliveries

Running a workflow asks collaborators for three kinds of `Delivery`: an email, a text message, or
handing the lead over to an agent. A collaborator replies with a value, fails, or does not answer.

What a delivery is asked for with may be values of any nature, because an agent addresses its
messages with whatever a lead's document holds. It is for the collaborators to refuse them.

Key definitions: `Action`, `Delivery`, `Failure`, `Reply`.
-/
import Cadence.Decode.Issue
import Cadence.Json.Basic

namespace Cadence

/-- A kind of delivery. -/
inductive Action where
  | sms
  | email
  | handoff
  deriving Repr, DecidableEq, Inhabited

/-- The name of a kind of delivery. -/
def Action.name : Action → String
  | .sms => "send_sms"
  | .email => "send_email"
  | .handoff => "handoff_to_agent"

/-- All kinds of delivery, by their names. -/
def Action.names : List (String × Action) :=
  [Action.sms, .email, .handoff].map fun a => (a.name, a)

/-- Something a collaborator is asked to do. -/
inductive Delivery where
  | email (receiver subject body : Json)
  | sms (receiver message : Json)
  | handoff (agentId notes : Json) (lead : Json.Fields)
  deriving Repr, DecidableEq, Inhabited

namespace Delivery

/-- The kind of a delivery. -/
def action : Delivery → Action
  | email .. => .email
  | sms .. => .sms
  | handoff .. => .handoff

/-- What a delivery is asked for with, by name. -/
def arguments : Delivery → Json.Fields
  | email receiver subject body => [("to", receiver), ("subject", subject), ("body", body)]
  | sms receiver message => [("to", receiver), ("message", message)]
  | handoff agentId notes lead => [("agent_id", agentId), ("notes", notes), ("lead", .obj lead)]

end Delivery

/-- Why a delivery failed. -/
inductive Failure where
  /-- The service failed, with a message and the type of the failure. -/
  | service (message errorType : String)
  /-- There was nobody to deliver to. -/
  | recipient (message : String)
  /-- What was to be delivered has these issues. -/
  | invalid (issues : List Issue)
  /-- The collaborator gave up waiting. -/
  | timedOut
  /-- Anything else, by its name, with a text that may be empty. -/
  | other (name text : String)
  deriving Repr, DecidableEq, Inhabited

/-- What came of asking for a delivery. -/
inductive Reply where
  | returned (value : Json)
  | failed (failure : Failure)
  | hung
  deriving Repr, DecidableEq, Inhabited

end Cadence
