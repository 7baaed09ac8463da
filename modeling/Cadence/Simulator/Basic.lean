/-
# The simulator

The simulator stands in for real services. It keeps every message it accepts in an outbox, in order;
an agent answers with the same sentence every time. Messages are numbered over all channels. A
message whose receiver, subject or body is no text is refused, and its number is not given again.

Key definitions: `Simulator.Message`, `Simulator.State`, `Simulator.Draft`, `Simulator.deliver`.
-/
import Cadence.Decode.Scalar
import Cadence.Delivery.Plan
import Cadence.Json.Display
import Cadence.Simulator.Rules

namespace Cadence
namespace Simulator

open Decode

/-- A message that the simulator accepted. -/
structure Message where
  id : String
  channel : String
  receiver : String
  subject : Option String
  body : String
  metadata : Json.Fields
  deriving Repr, DecidableEq, Inhabited

/-- The messages accepted so far, in order, how many numbers were given to messages, and the
failures so far. -/
structure State where
  outbox : List Message
  numbered : Nat
  tally : Tally
  deriving Repr, DecidableEq, Inhabited

/-- A simulator that has done nothing yet. -/
def State.fresh : State := ⟨[], 0, .zero⟩

/-- The name of the channel of a kind of delivery. -/
def channelName : Action → String
  | .sms => "sms"
  | .email => "email"
  | .handoff => "agent"

/-- The id of the message with a number on a channel. -/
def messageId (channel : String) (number : Nat) : String :=
  let ds := toString number
  "sim-" ++ channel ++ "-" ++ String.ofList (List.replicate (10 - ds.length) '0') ++ ds

/-- What an agent answers to a lead. -/
def cannedReply (lead : Json.Fields) : String :=
  "Hi " ++ ((lead.getD "name").truthy?.getD (.str "there")).display ++
    ", thanks for your interest! How can we help you today?"

/-- A message that nobody has looked at yet. -/
structure Draft where
  receiver : Json
  subject : Json
  body : Json
  metadata : Json.Fields
  deriving Repr, DecidableEq, Inhabited

/-- The draft for a delivery. An agent writes to the lead's phone, or else by email. -/
def Draft.ofDelivery : Delivery → Draft
  | .email receiver subject body => ⟨receiver, subject, body, []⟩
  | .sms receiver message => ⟨receiver, .null, message, []⟩
  | .handoff agentId notes lead =>
    ⟨((lead.getD "phone").truthy?.or (lead.getD "email").truthy?).getD (.str ""), .null,
      .str (cannedReply lead),
      [("agent_id", agentId), ("channel", lead.getD "channel"), ("notes", notes)]⟩

/-- The message with an id on a channel that a draft becomes. -/
def Draft.message (d : Draft) (id channel : String) : Checked Message :=
  (fun receiver subject body => ⟨id, channel, receiver, subject, body, d.metadata⟩) <$>
    (text d.receiver).within (.key "to") <*>
    (nullable text d.subject).within (.key "subject") <*>
    (text d.body).within (.key "body")

/-- What the simulator returns for a delivery that became the message with an id. -/
def receipt (id : String) : Delivery → Json.Fields
  | .email .. | .sms .. =>
    [("provider", .str "simulator"), ("providerMessageId", .str id), ("status", .str "sent")]
  | .handoff agentId _ lead =>
    [("agentId", agentId), ("channel", lead.getD "channel"),
      ("suggestedReply", .str (cannedReply lead)),
      ("delivery", .obj [("provider", .str "simulator"), ("providerMessageId", .str id)])]

/-- The simulator's answer to a delivery: a failure if the rules ask for one or the message is
refused, else a receipt for a message that is now in the outbox. -/
def deliver (rules : Rules) (d : Delivery) (s : State) : Reply × State :=
  match rules.check d.action s.tally with
  | (some failure, tally) => (.failed failure, { s with tally })
  | (none, tally) =>
    let number := s.numbered + 1
    let channel := channelName d.action
    let id := messageId channel number
    match (Draft.ofDelivery d).message id channel with
    | .ok message =>
      (.returned (.obj (receipt id d)), ⟨s.outbox ++ [message], number, tally⟩)
    | .bad issue issues =>
      (.failed (.invalid (issue :: issues)), ⟨s.outbox, number, tally⟩)

end Simulator
end Cadence
