/-
# Running one node

`runNode` runs a node of a chain and gives exactly one step. A trigger succeeds. A node that sends
something is skipped outside the send window. A wait pauses the run, unless the run does not pause
or comes back to this wait when it is due. Any other node asks for a delivery; a delivery that
fails, or that takes longer than the context allows, becomes a failed step.

Only the send window's time zone and the arithmetic of due times can keep a node from having a
step.

Key definitions: `runNode`, `stepOfWait`, `perform`, `orderOf`.
-/
import Cadence.Delivery.Members
import Cadence.Delivery.Plan
import Cadence.Lead.Tokens
import Cadence.Number.Decimal
import Cadence.Run.Context
import Cadence.Workflow.Linearize

namespace Cadence

open Time

/-- A failure as the message and the type that a step records. -/
def Failure.described (timeout : Binary64) : Failure → String × String
  | .service message errorType => (message, errorType)
  | .recipient message => (message, "missing_recipient")
  | .invalid issues =>
    ("; ".intercalate (issues.map fun issue => issue.defect.message), "delivery_failed")
  | .timedOut => ("Delivery call timed out after " ++ Decimal.general timeout ++ "s", "timeout")
  | .other name text => (if text = "" then name else text, "delivery_failed")

namespace Context

/-- A step of a node. -/
def step (c : Context) (n : Chain.Node) (status : Outcome) (output : Json.Fields) : Step :=
  ⟨n.id, n.type, status, output, c.stamp⟩

/-- A failed step of a node. -/
def failedStep (c : Context) (n : Chain.Node) (f : Failure) : Step :=
  let (message, errorType) := f.described c.timeout
  c.step n .failed [("error", .str message), ("errorType", .str errorType)]

/-- A message text with the lead's tokens replaced. -/
def render (c : Context) (text : String) : Except Failure String :=
  (c.lead.render text).mapError fun word =>
    .other "AttributeError" ("'Lead' object has no attribute " ++ Text.quoted word)

end Context

/-- The step of a wait. -/
def stepOfWait (c : Context) (n : Chain.Node) (amount : Int) (unit : WaitUnit) :
    Except Fault Step :=
  let output := [("amount", Json.int amount), ("unit", .str unit.name)]
  let resumed (due : String) : Step :=
    c.step n .success (output ++ [("resumed", .bool true), ("resumeAt", .str due)])
  let paused (due : String) : Step :=
    c.step n .success (output ++ [("paused", .bool true), ("resumeAt", .str due),
      ("reason", .str "Wait step reached")])
  if !c.pauseAtWait then .ok (c.step n .success output)
  else match c.replay.filter (·.nodeId = n.id) with
    | some ⟨_, .at due⟩ =>
      match due.le? c.now with
      | none => .error .mismatched
      | some true => .ok (resumed due.iso)
      | some false => .ok (paused due.iso)
    | some ⟨_, .value _⟩ => .error .mismatched
    | none => return paused (← dueAfter c.now amount unit).iso

/-- What a node asks for, with what its step records besides the reply. -/
structure Order where
  delivery : Delivery
  output : Json.Fields
  deriving Repr, DecidableEq, Inhabited

/-- The lead's document as an agent gets it, with the channel to answer on. -/
def leadForAgent (c : Context) : Json.Fields :=
  let lead := { c.lead with channel := some (handoffChannel c.lead c.lastChannel) }
  Json.dropNulls lead.fields

/-- The order of a node that sends something, or why there is nothing to send. -/
def orderOf (c : Context) (handsOver : Bool) (n : Chain.Node) : Except Failure Order :=
  match n.config with
  | .email subject body receiver => do
    let receiver := emailRecipient receiver c.overrides c.lead
    if receiver = "" then
      throw (.recipient "Email recipient missing. Set 'to' or provide a lead email.")
    let subject ← c.render subject
    let body ← c.render body
    return ⟨.email (.str receiver) (.str subject) (.str body), [("to", .str receiver)]⟩
  | .sms message receiver => do
    let receiver := smsRecipient receiver c.overrides c.lead
    if receiver = "" then
      throw (.recipient "SMS recipient missing. Set 'to' or provide a lead phone number.")
    let message ← c.render message
    return ⟨.sms (.str receiver) (.str message), [("to", .str receiver)]⟩
  | .agent agentId notes =>
    if !handsOver then .error (.service "Agent handoff is not configured." "handoff_unavailable")
    else .ok ⟨.handoff (.str agentId) (.ofText? notes) (leadForAgent c),
      [("agentId", .str agentId)]⟩
  | _ => .error (.service ("Unsupported node type: " ++ n.type) "unsupported_node")

/-- The context after a delivery: emails and text messages set the channel of the last one. -/
def Context.after (c : Context) : Delivery → Context
  | .email .. => { c with lastChannel := some Channel.email.name }
  | .sms .. => { c with lastChannel := some Channel.sms.name }
  | .handoff .. => c

/-- The step of a node whose delivery got a reply, and the context after it. A delivery whose reply
has members counts as made, also if the step cannot record them. -/
def settle (c : Context) (n : Chain.Node) (o : Order) (reply : Reply) : Step × Context :=
  match reply.members with
  | .error failure => (c.failedStep n failure, c)
  | .ok members =>
    let step := match members.fields with
      | .ok fields => c.step n .success (Json.Fields.merge o.output fields)
      | .error failure => c.failedStep n failure
    (step, c.after o.delivery)

/-- Asks for the delivery of a node. A context without time for it lets it time out at once. -/
def perform (c : Context) (handsOver : Bool) (n : Chain.Node) : Plan (Step × Context) :=
  match orderOf c handsOver n with
  | .error failure => .done (c.failedStep n failure, c)
  | .ok order =>
    if c.timeout.gtInt 0 then .ask order.delivery fun reply => .done (settle c n order reply)
    else .done (c.failedStep n .timedOut, c)

/-- The step of a node outside the send window. -/
def skippedStep (c : Context) (n : Chain.Node) : Step :=
  c.step n .success [("skipped", .bool true), ("reason", .str "Outside configured send window"),
    ("sendWindow", (c.sendWindow.map Workflow.SendWindow.toJson).getD .null)]

/-- Whether a node may run at this time, as far as the send window is concerned. -/
def mayRun (c : Context) (n : Chain.Node) : Except Fault Bool :=
  if Workflow.sendingTypes.contains n.type && !c.ignoreSendWindow then
    Workflow.SendWindow.allows c.defaultTimezone c.sendWindow c.now
  else .ok true

/-- Runs a node: its step and the context after it. -/
def runNode (handsOver : Bool) (c : Context) (n : Chain.Node) :
    Plan (Except Fault (Step × Context)) :=
  match n.config with
  | .trigger => .done (.ok (c.step n .success [], c))
  | config =>
    match mayRun c n with
    | .error fault => .done (.error fault)
    | .ok false => .done (.ok (skippedStep c n, c))
    | .ok true =>
      match config with
      | .wait amount unit => .done ((stepOfWait c n amount unit).map (·, c))
      | _ => (perform c handsOver n).bind fun result => .done (.ok result)

end Cadence
