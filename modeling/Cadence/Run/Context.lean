/-
# What a run needs

A run has a `Context` besides its chain: whom it addresses, when it happens, how it treats waits and
the send window, and how long it waits for a collaborator. A run that resumes an enrollment at a
wait carries the wait's node and due time.

Key definitions: `Context`, `Replay`, `waitingTime`.
-/
import Cadence.Lead.Recipient
import Cadence.Run.Report
import Cadence.Workflow.Chain
import Cadence.Workflow.Policy

namespace Cadence

open Time

/-- A wait that a run comes back to, and when it is due. -/
structure Replay where
  nodeId : String
  due : Due
  deriving Repr, DecidableEq, Inhabited

/-- What a run needs besides its chain. `stamp` is the time that steps are recorded with, `now` the
time that decides about waits and send windows. `lastChannel` names the channel of the last
delivery. -/
structure Context where
  lead : Lead
  overrides : Overrides
  now : Moment
  stamp : Moment
  pauseAtWait : Bool
  ignoreSendWindow : Bool
  sendWindow : Option Workflow.SendWindow
  defaultTimezone : String
  timeout : Binary64
  lastChannel : Option String
  replay : Option Replay
  deriving Repr, DecidableEq, Inhabited

namespace Context

/-- How long a collaborator is waited for unless something else is said, in seconds. -/
def defaultTimeout : Binary64 := .ofInt 30

/-- A context at a time: a time without an offset is universal time, and unless a delivery went
before, the channel of the last one is the one the lead prefers. -/
def settled (c : Context) : Context :=
  { c with
    now := c.now.assumeUtc
    lastChannel := c.lastChannel.or (c.lead.channel.map Channel.name) }

end Context

/-- The seconds of a unit. -/
def WaitUnit.seconds : WaitUnit → Int
  | .minutes => 60
  | .hours => 3600
  | .days => 86400

/-- The longest duration there is, in days. -/
def longestDays : Int := 999999999

/-- A waiting time in microseconds, if there is a duration so long. -/
def waitingTime (amount : Int) (unit : WaitUnit) : Except Fault Int :=
  let s := amount * unit.seconds
  if -longestDays * 86400 ≤ s && s < (longestDays + 1) * 86400 then .ok (s * second)
  else .error .overflow

/-- The due time of a wait that starts at a moment. -/
def dueAfter (now : Moment) (amount : Int) (unit : WaitUnit) : Except Fault Moment := do
  match now.add (← waitingTime amount unit) with
  | some m => .ok m
  | none => .error .overflow

end Cadence
