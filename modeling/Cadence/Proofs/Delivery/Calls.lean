/-
# The calls of a plan

Carrying out a plan with collaborators calls them one after the other. `Plan.calls` lists these
calls with their replies. What a plan can come to at all, whoever its collaborators are, is said by
`Plan.ComesTo`: a value together with calls whose replies have some property. A plan that is carried
out comes to its value with its calls (`comesTo_run`), so what holds of everything a plan can come
to holds of every run, and the state of the collaborators no longer matters.

Key definitions: `Exchange`, `Plan.calls`, `Plan.ComesTo`, `Reply.Plain`, `Reply.IsObject`.
Key theorems: `comesTo_run`, `comesTo_bind`.
-/
import Cadence.Delivery.Plan
import Cadence.Proofs.Json.Fields

namespace Cadence

/-- A delivery that was asked for, and the reply. -/
structure Exchange where
  delivery : Delivery
  reply : Reply
  deriving Repr, DecidableEq, Inhabited

namespace Reply

/-- Whether a collaborator came back with a value. -/
def isReturned : Reply → Bool
  | returned _ => true
  | _ => false

/-- A reply that does not claim to pause the run: an object without a truthy member `paused`, a
failure, or none at all. -/
def Plain : Reply → Prop
  | returned (.obj fields) => Json.Fields.Denies fields "paused"
  | returned _ => False
  | _ => True

/-- A reply that reports a success: an object without a truthy member `paused`. -/
def Succeeds : Reply → Prop
  | returned (.obj fields) => Json.Fields.Denies fields "paused"
  | _ => False

theorem Succeeds.plain {r : Reply} (h : r.Succeeds) : r.Plain := by
  unfold Succeeds at h
  split at h
  · exact h
  · exact h.elim

/-- A reply that is an object wherever it is a value; the keys of an object differ. -/
def IsObject : Reply → Prop
  | returned (.obj fields) => (fields.map (·.1)).Nodup
  | returned _ => False
  | _ => True

/-- An object that is no plain reply has a truthy member `paused`. -/
theorem IsObject.claim {r : Reply} (ho : r.IsObject) (hr : ¬ r.Plain) : ∃ fields value,
    r = returned (.obj fields) ∧ (fields.map (·.1)).Nodup ∧ ("paused", value) ∈ fields ∧
      value.isTruthy = true := by
  unfold IsObject at ho
  split at ho
  · rename_i fields
    obtain ⟨value, hm, hgiven⟩ := Json.Fields.exists_of_not_denies hr
    exact ⟨fields, value, rfl, ho, hm, hgiven⟩
  · exact ho.elim
  · rename_i hobj hval
    refine absurd ?_ hr
    unfold Plain
    split
    · exact absurd rfl (hobj _)
    · exact absurd rfl (hval _)
    · trivial

/-- A plain reply that returned is an object. -/
theorem Plain.obj {v : Json} (h : (returned v).Plain) :
    ∃ fields, v = .obj fields ∧ Json.Fields.Denies fields "paused" := by
  unfold Plain at h
  split at h
  · rename_i fields heq
    exact ⟨fields, Reply.returned.inj heq, h⟩
  · exact h.elim
  · rename_i hne
    exact absurd rfl (hne v)

end Reply

/-- Collaborators all of whose replies have a property. -/
def Collaborators.Reply {σ : Type} (k : Collaborators σ) (P : Cadence.Reply → Prop) : Prop :=
  ∀ d w, P (k.deliver d w).1

/-- Collaborators of whom nothing is asked. -/
theorem Collaborators.reply_any {σ : Type} (k : Collaborators σ) : k.Reply fun _ => True :=
  fun _ _ => trivial

namespace Plan

variable {α β σ : Type}

/-- The calls made when a plan is carried out, in order. -/
def calls (k : Collaborators σ) : Plan α → σ → List Exchange
  | done _, _ => []
  | ask d next, w => ⟨d, (k.deliver d w).1⟩ :: calls k (next (k.deliver d w).1) (k.deliver d w).2

/-- What a plan can come to with replies that have a property, and the calls on the way. -/
inductive ComesTo (P : Reply → Prop) : Plan α → α → List Exchange → Prop
  | done (a : α) : ComesTo P (.done a) a []
  | ask {d : Delivery} {next : Reply → Plan α} {r : Reply} {a : α} {xs : List Exchange} :
      P r → ComesTo P (next r) a xs → ComesTo P (.ask d next) a (⟨d, r⟩ :: xs)

/-- **A plan that is carried out comes to its value**, with the calls that it makes. -/
theorem comesTo_run {k : Collaborators σ} {P : Reply → Prop} (hk : k.Reply P) :
    ∀ (p : Plan α) (w : σ), p.ComesTo P (p.run k w).1 (p.calls k w)
  | .done a, _ => .done a
  | .ask d next, w => .ask (hk d w) (comesTo_run hk (next (k.deliver d w).1) (k.deliver d w).2)

variable {P : Reply → Prop}

theorem comesTo_done {a b : α} {xs : List Exchange} :
    (done a).ComesTo P b xs ↔ b = a ∧ xs = [] := by
  constructor
  · intro h
    cases h
    exact ⟨rfl, rfl⟩
  · rintro ⟨rfl, rfl⟩
    exact .done b

theorem comesTo_ask {d : Delivery} {next : Reply → Plan α} {a : α} {xs : List Exchange} :
    (ask d next).ComesTo P a xs ↔
      ∃ r ys, P r ∧ (next r).ComesTo P a ys ∧ xs = ⟨d, r⟩ :: ys := by
  constructor
  · intro h
    cases h with
    | ask hr hn => exact ⟨_, _, hr, hn, rfl⟩
  · rintro ⟨r, ys, hr, hn, rfl⟩
    exact .ask hr hn

/-- What a plan comes to depends on the replies on the way, not on those that could have been. -/
theorem ComesTo.of_replies {Q : Reply → Prop} {p : Plan α} {a : α} {xs : List Exchange}
    (hp : p.ComesTo P a xs) (hq : ∀ x ∈ xs, Q x.reply) : p.ComesTo Q a xs := by
  induction hp with
  | done a => exact .done a
  | ask _ _ ih =>
    exact .ask (hq _ List.mem_cons_self) (ih fun x hx => hq x (List.mem_cons_of_mem _ hx))

/-- What two plans in a row come to: the first comes to a value, the second goes on with it, and
the calls of the second follow those of the first. -/
theorem comesTo_bind : ∀ {p : Plan α} {f : α → Plan β} {b : β} {zs : List Exchange},
    (p.bind f).ComesTo P b zs ↔
      ∃ a xs ys, p.ComesTo P a xs ∧ (f a).ComesTo P b ys ∧ zs = xs ++ ys
  | .done a, f, b, zs => by
    constructor
    · intro h
      exact ⟨a, [], zs, .done a, h, rfl⟩
    · rintro ⟨a', xs, ys, ha, hf, rfl⟩
      obtain ⟨rfl, rfl⟩ := comesTo_done.1 ha
      exact hf
  | .ask d next, f, b, zs => by
    constructor
    · intro h
      obtain ⟨r, ys, hr, hn, rfl⟩ := comesTo_ask.1 h
      obtain ⟨a, xs, ys', ha, hf, rfl⟩ := comesTo_bind.1 hn
      exact ⟨a, ⟨d, r⟩ :: xs, ys', .ask hr ha, hf, rfl⟩
    · rintro ⟨a, xs, ys, ha, hf, rfl⟩
      obtain ⟨r, xs', hr, hn, rfl⟩ := comesTo_ask.1 ha
      exact .ask hr (comesTo_bind.2 ⟨a, xs', ys, hn, hf, rfl⟩)

end Plan
end Cadence
