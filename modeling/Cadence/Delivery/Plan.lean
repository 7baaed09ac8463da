/-
# Plans of deliveries

What a run does depends on what its collaborators reply. A `Plan` is a run up to these replies: it
is done, or it asks for a delivery and goes on with the reply. `Plan.run` carries a plan out with
collaborators that have a state.

Key definitions: `Plan`, `Plan.bind`, `Collaborators`, `Plan.run`.
-/
import Cadence.Delivery.Basic

namespace Cadence

/-- A computation that may ask for deliveries. -/
inductive Plan (α : Type) where
  | done (value : α)
  | ask (delivery : Delivery) (next : Reply → Plan α)

namespace Plan

variable {α β σ : Type}

/-- The second plan with the value of the first. -/
def bind : Plan α → (α → Plan β) → Plan β
  | done a, f => f a
  | ask d next, f => ask d fun r => bind (next r) f

instance : Monad Plan where
  pure := done
  bind := bind

/-- A plan that asks for one delivery. -/
def deliver (d : Delivery) : Plan Reply := ask d done

end Plan

/-- Collaborators: how they answer to a delivery and what becomes of their state, and whether there
is one to hand a lead over to. -/
structure Collaborators (σ : Type) where
  deliver : Delivery → σ → Reply × σ
  handsOver : Bool

namespace Plan

variable {α σ : Type}

/-- A plan carried out with collaborators. -/
def run (c : Collaborators σ) : Plan α → σ → α × σ
  | done a, s => (a, s)
  | ask d next, s =>
    let (reply, s) := c.deliver d s
    run c (next reply) s

end Plan
end Cadence
