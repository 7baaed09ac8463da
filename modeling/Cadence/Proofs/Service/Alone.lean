/-
# A visit carried out alone

What a worker did on a visit can be done again with nobody else around: the workflows, the clock and
the replies are those that the worker found (`Visit.alone`), and the rows are those that the visits
before have left (`inTurn`). The replies are given by collaborators that have them written down and
keep what they are asked for (`replaying`).

A plan that has got some of its replies has asked for some deliveries (`Plan.heard`), and something
of it is left (`Plan.after`). If nothing is left, carrying it out alone comes to the same value with
the same calls (`run_replaying`). What is recorded then depends on the enrollment and its report, not
on the state it is recorded in (`concluded_cases`).

Key definitions: `Plan.after`, `Plan.heard`, `replaying`, `Visit.alone`, `inTurn`.
Key theorems: `run_replaying`, `concluded_cases`, `alone_over`, `alone_concluded`.
-/
import Cadence.Proofs.Service.Alike
import Cadence.Service.Floor

namespace Cadence

/-! ### Plans and replies -/

namespace Plan

variable {α : Type}

/-- What is left of a plan when it has got replies. -/
def after : Plan α → List Reply → Plan α
  | done a, _ => done a
  | ask d next, [] => ask d next
  | ask _ next, r :: rs => after (next r) rs

/-- The deliveries that replies were to. -/
def heard : Plan α → List Reply → List Delivery
  | done _, _ => []
  | ask _ _, [] => []
  | ask d next, r :: rs => d :: heard (next r) rs

@[simp] theorem after_nil (p : Plan α) : p.after [] = p := by cases p <;> rfl

@[simp] theorem heard_nil (p : Plan α) : p.heard [] = [] := by cases p <;> rfl

/-- One more reply is that to the delivery that was asked for last. -/
theorem hear_one : ∀ {p : Plan α} {rs : List Reply} {d : Delivery} {next : Reply → Plan α},
    p.after rs = .ask d next → ∀ r : Reply,
      p.after (rs ++ [r]) = next r ∧ p.heard (rs ++ [r]) = p.heard rs ++ [d]
  | done a, _, _, _, h, _ => by cases h
  | ask d next, [], _, _, h, r => by
    cases h
    exact ⟨after_nil (next r), congrArg (d :: ·) (heard_nil (next r))⟩
  | ask d next, r₀ :: rs, _, _, h, r => by
    obtain ⟨hafter, hheard⟩ := hear_one (p := next r₀) h r
    exact ⟨hafter, congrArg (d :: ·) hheard⟩

end Plan

namespace Service

open Time
open Enrollment (Row Rows recorded)

/-- Replies that are written down, and what was asked for and for whom. -/
abbrev Replay : Type := List Reply × List (String × Delivery)

/-- Collaborators that give the replies that are written down and keep what they are asked for. -/
def replaying (handsOver : Bool) (id : String) : Collaborators Replay :=
  ⟨fun d w => (w.1.headD .hung, w.1.tail, w.2 ++ [(id, d)]), handsOver⟩

variable {σ : Type} {c : Config} {h : Bool}

/-- **A plan that got all its replies comes to the same with the replies written down.** -/
theorem run_replaying {α : Type} (id : String) : ∀ {p : Plan α} {rs : List Reply} {a : α},
    p.after rs = .done a → ∀ log : List (String × Delivery),
      (p.run (replaying h id) (rs, log)).1 = a ∧
        (p.run (replaying h id) (rs, log)).2.2 = log ++ (p.heard rs).map (id, ·)
  | .done b, rs, a, hp, log => by
    cases hp
    exact ⟨rfl, (List.append_nil log).symm⟩
  | .ask d next, [], a, hp, log => by cases hp
  | .ask d next, r :: rs, a, hp, log => by
    obtain ⟨hvalue, hlog⟩ := run_replaying id (p := next r) hp (log ++ [(id, d)])
    refine ⟨hvalue, hlog.trans ?_⟩
    rw [List.append_assoc]
    rfl

/-! ### Visits in turn -/

/-- The state for a visit: the workflows, the clock and the replies are those that were found. -/
def Visit.scene (v : Visit) (t : State Replay) : State Replay :=
  { t with files := v.files, clock := v.clock, world := (v.replies, t.world.2) }

/-- A visit with nobody else around. -/
def Visit.alone (c : Config) (h : Bool) (v : Visit) (t : State Replay) : State Replay :=
  match v.errand with
  | .advance ignore news =>
    (Service.advance c (replaying h v.id) v.id ignore news).after (v.scene t)
  | .delete => (Service.delete v.id).after (v.scene t)
  | .ring => (resume c (replaying h v.id) v.id).after (v.scene t)
  | .poll => (resume c (replaying h v.id) v.id).after (v.scene t)

/-- Visits one after the other. -/
def inTurn (c : Config) (h : Bool) (book : List Visit) (t : State Replay) : State Replay :=
  book.foldl (fun t v => v.alone c h t) t

theorem inTurn_concat (book : List Visit) (v : Visit) (t : State Replay) :
    inTurn c h (book ++ [v]) t = v.alone c h (inTurn c h book t) := by
  unfold inTurn
  rw [List.foldl_append]
  rfl

/-- A visit is a run of the enrollment, unless it is to delete it. -/
theorem alone_of_orders {v : Visit} {ignore : Option Bool} {news : Option Lead}
    (horders : v.errand.orders = some (ignore, news)) (t : State Replay) :
    v.alone c h t = (Service.advance c (replaying h v.id) v.id ignore news).after (v.scene t) := by
  unfold Visit.alone
  cases herrand : v.errand with
  | advance ignore' news' =>
    rw [herrand] at horders
    cases horders
    rfl
  | delete =>
    rw [herrand] at horders
    cases horders
  | ring | poll =>
    rw [herrand] at horders
    cases horders
    exact resume_after v.id (v.scene t)

theorem alone_of_no_orders {v : Visit} (horders : v.errand.orders = none) (t : State Replay) :
    v.alone c h t = (Service.delete v.id).after (v.scene t) := by
  unfold Visit.alone
  cases herrand : v.errand with
  | delete => rfl
  | _ =>
    rw [herrand] at horders
    cases horders

/-! ### What is recorded -/

/-- **What is recorded of a report does not depend on the state**: nothing, or the verdict on it with
its new steps. -/
theorem concluded_cases (c : Config) (e : Enrollment) (now : Moment)
    (result : Except Fault Report) :
    (∀ {σ : Type} (s : State σ), (s.rows.find? e.id).isSome = true →
      (do conclude c e now (← orFault result) : Op σ Report).after s = s) ∨
    ∃ r status completedAt resumeAt, result = .ok r ∧ Verdict now r status completedAt resumeAt ∧
      ∀ {σ : Type} (s : State σ), (s.rows.find? e.id).isSome = true →
        (do conclude c e now (← orFault result) : Op σ Report).after s = { s with
          rows := s.rows.modify e.id (recorded (newSteps e r) status completedAt resumeAt)
          timers := (rearm c e.id resumeAt s).toOption.getD s.timers } := by
  cases result with
  | error f =>
    refine Or.inl fun s _ => ?_
    unfold Op.after
    rw [run_bind_error (run_orFault_error f s)]
  | ok r =>
    rcases verdict_cases now r with ⟨status, completedAt, resumeAt, hv⟩ | ⟨hs, hp, f, hdue⟩
    · refine Or.inr ⟨r, status, completedAt, resumeAt, rfl, hv, fun s hrow => ?_⟩
      unfold Op.after
      rw [run_bind_ok (run_orFault_ok r s), run_conclude c hrow hv]
    · refine Or.inl fun s _ => ?_
      unfold Op.after
      rw [run_bind_ok (run_orFault_ok r s), run_conclude_lost c e hs hp hdue]

section
variable {τ : Type} {e : Enrollment} {now : Moment} {result : Except Fault Report}

/-- What is recorded makes the same of the same row. -/
theorem concluded_row {s : State σ} {t : State τ} (hrow : t.rows.find? e.id = s.rows.find? e.id)
    (hsome : (s.rows.find? e.id).isSome = true) :
    ((do conclude c e now (← orFault result) : Op τ Report).after t).rows.find? e.id =
      ((do conclude c e now (← orFault result) : Op σ Report).after s).rows.find? e.id := by
  have hsome' : (t.rows.find? e.id).isSome = true := by
    rw [hrow]
    exact hsome
  rcases concluded_cases c e now result with hstill | ⟨r, status, completedAt, resumeAt, -, -, hrec⟩
  · rw [hstill t hsome', hstill s hsome, hrow]
  · have hid : ∀ r₀ : Row, (recorded (newSteps e r) status completedAt resumeAt r₀).id = r₀.id :=
      fun _ => rfl
    rw [hrec t hsome', hrec s hsome]
    dsimp only
    rw [Enrollment.find?_modify _ hid, Enrollment.find?_modify _ hid, hrow]

/-- Recording asks nobody. -/
theorem concluded_world {s : State σ} (hsome : (s.rows.find? e.id).isSome = true) :
    ((do conclude c e now (← orFault result) : Op σ Report).after s).world = s.world := by
  rcases concluded_cases c e now result with hstill | ⟨r, status, completedAt, resumeAt, -, -, hrec⟩
  · rw [hstill s hsome]
  · rw [hrec s hsome]

/-- Recording leaves all other enrollments alone. -/
theorem concluded_apart {s : State σ} {id : String} (hne : id ≠ e.id)
    (hsome : (s.rows.find? e.id).isSome = true) :
    ((do conclude c e now (← orFault result) : Op σ Report).after s).rows.find? id =
      s.rows.find? id := by
  rcases concluded_cases c e now result with hstill | ⟨r, status, completedAt, resumeAt, -, -, hrec⟩
  · rw [hstill s hsome]
  · have hid : ∀ r₀ : Row, (recorded (newSteps e r) status completedAt resumeAt r₀).id = r₀.id :=
      fun _ => rfl
    rw [hrec s hsome]
    exact Enrollment.find?_modify_of_ne hne hid s.rows

end

/-! ### A visit and its parts -/

variable {v : Visit} {ignore : Option Bool} {news : Option Lead} {t t' : State Replay}

/-- A visit that is over before anybody is asked. -/
theorem alone_over {made : Except Fault Report} (horders : v.errand.orders = some (ignore, news))
    (hbegin : (begin_ c h v.id ignore news).run (v.scene t) = (made.map .finished, t')) :
    v.alone c h t = t' := by
  rw [alone_of_orders horders]
  unfold Op.after
  rw [run_advance_over c (replaying h v.id) made hbegin]

/-- **A visit with a plan that got all its replies**: what the plan came to is recorded, and the
deliveries are those of the replies. -/
theorem alone_concluded {e : Enrollment} {now : Moment} {plan : Plan (Except Fault Report)}
    {result : Except Fault Report} (horders : v.errand.orders = some (ignore, news))
    (hbegin : (begin_ c h v.id ignore news).run (v.scene t) = (.ok (.running e now plan), t'))
    (hplan : plan.after v.replies = .done result)
    (hsome : (t'.rows.find? e.id).isSome = true) :
    (v.alone c h t).rows.find? e.id =
        ((do conclude c e now (← orFault result) : Op Replay Report).after t').rows.find? e.id ∧
      (v.alone c h t).world.2 = t.world.2 ++ (plan.heard v.replies).map (v.id, ·) := by
  have hworld : t'.world = (v.replies, t.world.2) := by
    have hsame := begin_world c h v.id ignore news (v.scene t)
    unfold Op.after at hsame
    rwa [hbegin] at hsame
  obtain ⟨hvalue, hlog⟩ := run_replaying (h := h) v.id hplan t.world.2
  have hrun := run_advance c (replaying h v.id) hbegin
  rw [hworld, hvalue] at hrun
  generalize hu : ({ t' with
    world := (plan.run (replaying h v.id) (v.replies, t.world.2)).2 } : State Replay) = u at hrun
  have hrows : u.rows = t'.rows := by rw [← hu]
  have hlog' : u.world.2 = t.world.2 ++ (plan.heard v.replies).map (v.id, ·) := by
    rw [← hu]
    exact hlog
  have hsome' : (u.rows.find? e.id).isSome = true := by rwa [hrows]
  have hafter : v.alone c h t = (do conclude c e now (← orFault result) : Op Replay Report).after u := by
    rw [alone_of_orders horders]
    unfold Op.after
    rw [hrun]
  rw [hafter, concluded_world hsome']
  exact ⟨concluded_row (by rw [hrows]) hsome, hlog'⟩

end Service
end Cadence
