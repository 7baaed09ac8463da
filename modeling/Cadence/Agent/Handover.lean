/-
# Handing a lead over to an agent

An agent that takes a lead over is briefed with what is known about the lead and with the notes of
whoever made the workflow. What it writes is sent to the lead on the channel that the lead's
document names, by email or else as a text message. An agent that writes nothing, and a lead that
cannot be reached on the channel, are failures; nothing is sent then.

Key definitions: `Agent.channelOf`, `Agent.promptFor`, `Agent.brief`, `Agent.answer`.
-/
import Cadence.Agent.Model
import Cadence.Agent.Profile
import Cadence.Delivery.Plan
import Cadence.Json.Display

namespace Cadence
namespace Agent

/-- The channel on which a lead is answered. -/
def channelOf (lead : Json.Fields) : Json := (lead.getD "channel").truthy?.getD (.str "SMS")

/-- What an agent is asked to write. -/
def promptFor (notes : Json) (lead : Json.Fields) (channel : Json) : String :=
  let line (label : String) (value : Json) : List String :=
    value.truthy?.toList.map fun v => label ++ ": " ++ v.display
  "\n".intercalate <|
    ["Write the next " ++ channel.display ++ " message to this lead."] ++
    line "Lead name" (lead.getD "name") ++
    line "Their last message" (lead.getD "lastMessage") ++
    line "Notes from the workflow author" notes ++
    if channel = .str "SMS" then ["Keep it under 320 characters."] else []

/-- What the agent with an id is told when it takes a lead over. -/
def brief (p : Profiles) (agentId notes : Json) (lead : Json.Fields) :
    Except Failure Briefing :=
  (p.load agentId.display).map fun profile => ⟨promptFor notes lead (channelOf lead), profile⟩

/-- The subject of emails to leads. -/
def subject : String := "Following up on your inquiry"

/-- What has to be sent to a lead: a text on the lead's channel, if there is an address for it. -/
def message (lead : Json.Fields) (text : String) : Except Failure Delivery :=
  if channelOf lead = .str "EMAIL" then
    match (lead.getD "email").truthy? with
    | some receiver => .ok (.email receiver (.str subject) (.str text))
    | none => .error (.recipient "Agent handoff over email needs a lead email.")
  else
    match (lead.getD "phone").truthy? with
    | some receiver => .ok (.sms receiver (.str text))
    | none => .error (.recipient "Agent handoff over SMS needs a lead phone number.")

/-- What is to be sent when an agent has written something, or why nothing is. -/
def messageFor (agentId : Json) (lead : Json.Fields) (written : Except Failure String) :
    Except Failure (String × Delivery) := do
  let text ← written
  if text = "" then
    throw (.service ("Agent " ++ agentId.display ++ " produced no reply") "empty_reply")
  return (text, ← message lead text)

/-- What an agent reports after sending a text. -/
def receipt (agentId : Json) (lead : Json.Fields) (text : String) (delivery : Json) : Json :=
  .obj [("agentId", agentId), ("channel", channelOf lead), ("suggestedReply", .str text),
    ("delivery", delivery)]

/-- Sends what an agent has written. -/
def answer (agentId : Json) (lead : Json.Fields) (written : Except Failure String) : Plan Reply :=
  match messageFor agentId lead written with
  | .error failure => .done (.failed failure)
  | .ok (text, delivery) => .ask delivery fun
    | .returned value => .done (.returned (receipt agentId lead text value))
    | other => .done other

end Agent
end Cadence
