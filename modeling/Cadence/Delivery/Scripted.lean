/-
# Scripted collaborators

For trying out what a workflow does when deliveries go wrong, each kind of delivery can be given a
script of replies. The replies are given in turn and the last one for ever; where the script says
so, and where there is no script, the simulator answers. All deliveries asked for are kept in
order.

Key definitions: `Scripted.Behaviour`, `Scripted.State`, `Scripted.collaborators`.
-/
import Cadence.Simulator.Basic

namespace Cadence
namespace Scripted

/-- What is done for one delivery. -/
inductive Behaviour where
  | simulate
  | reply (r : Reply)
  deriving Repr, DecidableEq, Inhabited

/-- The scripts that are left, the deliveries asked for, and the simulator. -/
structure State where
  scripts : List (Action × List Behaviour)
  calls : List Delivery
  simulator : Simulator.State
  deriving Repr, DecidableEq, Inhabited

/-- Scripts of which nothing has been used. -/
def State.fresh (scripts : List (Action × List Behaviour)) : State := ⟨scripts, [], .fresh⟩

/-- The next behaviour of a script and what is left of it: its last one is kept. -/
def next : List Behaviour → Behaviour × List Behaviour
  | [] => (.simulate, [])
  | [b] => (b, [b])
  | b :: rest => (b, rest)

/-- The next behaviour for a kind of delivery, and the scripts after it. -/
def nextFor (a : Action) : List (Action × List Behaviour) →
    Behaviour × List (Action × List Behaviour)
  | [] => (.simulate, [])
  | (b, script) :: rest =>
    if b = a then
      let (behaviour, script) := next script
      (behaviour, (b, script) :: rest)
    else
      let (behaviour, rest) := nextFor a rest
      (behaviour, (b, script) :: rest)

/-- The reply to a delivery. -/
def deliver (rules : Simulator.Rules) (d : Delivery) (s : State) : Reply × State :=
  let (behaviour, scripts) := nextFor d.action s.scripts
  let s := { s with scripts, calls := s.calls ++ [d] }
  match behaviour with
  | .reply r => (r, s)
  | .simulate =>
    let (r, simulator) := Simulator.deliver rules d s.simulator
    (r, { s with simulator })

/-- Collaborators that follow scripts, with a simulator of these rules behind them. -/
def collaborators (rules : Simulator.Rules) (handsOver : Bool) : Collaborators State :=
  ⟨deliver rules, handsOver⟩

end Scripted
end Cadence
