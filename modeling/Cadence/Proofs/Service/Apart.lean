/-
# Enrollments do not interfere

All enrollments are kept in one store, share one set of timers and go to the same collaborators,
often with the same workflow. Still each is on its own: whatever a run or a deletion does to one
enrollment, the row of every other one, with its steps, and its timer stay as they are. Runs of two
enrollments at the same time of the clock may therefore change places: either order ends in the same
rows and timers and gives both runs the same reports (`runs_change_places`).

The replies of the collaborators must not depend on which of two runs asked first, or they would
carry what one run did over to the other.

Key theorems: `rows_eq_of_find?`, `Alike.swap`, `runs_change_places`.
-/
import Cadence.Proofs.Service.Alike

namespace Cadence
namespace Service

open Time
open Enrollment (Row Rows recorded)

variable {σ : Type} {c : Config} {k : Collaborators σ}

/-- Rows with the same ids in the same order are the same if the same is found under each id. -/
theorem rows_eq_of_find? : ∀ {rows rows' : Rows}, (rows.map (·.id)).Nodup →
    rows'.map (·.id) = rows.map (·.id) → (∀ id, rows'.find? id = rows.find? id) → rows' = rows
  | [], rows', _, hids, _ => List.map_eq_nil_iff.1 hids
  | r :: rows, [], _, hids, _ => by cases hids
  | r :: rows, r' :: rows', hnd, hids, h => by
    rw [List.map_cons, List.map_cons, List.cons.injEq] at hids
    obtain ⟨hid, hrest⟩ := hids
    rw [List.map_cons, List.nodup_cons] at hnd
    have hhead : r' = r := by
      have heq := h r.id
      unfold Rows.find? at heq
      rw [List.find?_cons_of_pos (by simpa using hid), List.find?_cons_of_pos (by simp)] at heq
      exact Option.some.inj heq
    refine congrArg₂ List.cons hhead (rows_eq_of_find? hnd.2 hrest fun id => ?_)
    by_cases hr : r.id = id
    · have hnone : ∀ rows₁ : Rows, rows₁.map (·.id) = rows.map (·.id) → rows₁.find? id = none := by
        intro rows₁ hids₁
        rw [← Option.not_isSome_iff_eq_none, Enrollment.find?_isSome, hids₁, ← hr]
        exact hnd.1
      rw [hnone rows' hrest, hnone rows rfl]
    · have heq := h id
      unfold Rows.find? at heq ⊢
      rwa [List.find?_cons_of_neg (by simpa [hid] using hr),
        List.find?_cons_of_neg (by simpa using hr)] at heq

/-- Whatever is done with a service, enrollments have distinct ids. -/
theorem carry_ids : ∀ (cmds : List Command) {s : State σ}, (s.rows.map (·.id)).Nodup →
    ((carry c k cmds s).rows.map (·.id)).Nodup
  | [], _, h => h
  | cmd :: cmds, _, h => carry_ids cmds (cmd.ids h)

/-- **A run comes to the same after a run of another enrollment**, and leaves its own enrollment as
it would have left it. -/
theorem Alike.swap (hk : k.Steady) {id other : String} (hne : id ≠ other)
    (ignore ignore' : Option Bool) (news news' : Option Lead) (s : State σ) :
    Agree True id ((advance c k id ignore news).run s)
      ((advance c k id ignore news).run ((advance c k other ignore' news').after s)) :=
  advance_agrees c rfl ignore news (fun plan => plan.run_steady hk _ _)
    (Invocation.apart ⟨other, ignore', news', s⟩ hne)

/-- What is seen of an enrollment after two runs in either order is the same. -/
theorem Alike.either_order (hk : k.Steady) {id₁ id₂ : String} (hne : id₁ ≠ id₂)
    (ignore₁ ignore₂ : Option Bool) (news₁ news₂ : Option Lead) (s : State σ) (id : String) :
    Alike True id
      ((advance c k id₂ ignore₂ news₂).after ((advance c k id₁ ignore₁ news₁).after s))
      ((advance c k id₁ ignore₁ news₁).after ((advance c k id₂ ignore₂ news₂).after s)) := by
  have hthird : ∀ (i j : Invocation σ), id ≠ i.id → id ≠ j.id → j.before = i.after c k →
      Alike True id i.before (j.after c k) := by
    intro i j hi hj hbefore
    exact (i.apart hi).trans (hbefore ▸ j.apart hj)
  by_cases h₁ : id = id₁
  · -- the run of the second enrollment comes last, or first
    subst h₁
    have hlast : Alike True id ((advance c k id ignore₁ news₁).after s)
        ((advance c k id₂ ignore₂ news₂).after ((advance c k id ignore₁ news₁).after s)) :=
      Invocation.apart ⟨id₂, ignore₂, news₂, _⟩ hne
    exact hlast.symm.trans (Alike.swap hk hne ignore₁ ignore₂ news₁ news₂ s).after
  by_cases h₂ : id = id₂
  · subst h₂
    have hlast : Alike True id ((advance c k id ignore₂ news₂).after s)
        ((advance c k id₁ ignore₁ news₁).after ((advance c k id ignore₂ news₂).after s)) :=
      Invocation.apart ⟨id₁, ignore₁, news₁, _⟩ hne.symm
    exact (Alike.swap hk hne.symm ignore₂ ignore₁ news₂ news₁ s).after.symm.trans hlast
  · have hone := hthird ⟨id₁, ignore₁, news₁, s⟩ ⟨id₂, ignore₂, news₂, _⟩ h₁ h₂ rfl
    have htwo := hthird ⟨id₂, ignore₂, news₂, s⟩ ⟨id₁, ignore₁, news₁, _⟩ h₂ h₁ rfl
    exact hone.symm.trans htwo

/-- Runs in either order leave the enrollments that there were, in their order. -/
theorem ids_either_order (id₁ id₂ : String) (ignore₁ ignore₂ : Option Bool)
    (news₁ news₂ : Option Lead) (s : State σ) :
    (((advance c k id₂ ignore₂ news₂).after
      ((advance c k id₁ ignore₁ news₁).after s)).rows.map (·.id)) = s.rows.map (·.id) :=
  (Invocation.ids ⟨id₂, ignore₂, news₂, _⟩).trans (Invocation.ids ⟨id₁, ignore₁, news₁, s⟩)

/-- **Enrollments do not interfere.** Whatever was done with a service, running or deleting one
enrollment leaves the row of every other one, with its steps, and its timer as they were; and runs of
two enrollments end in the same rows and timers in either order, each with the report that it would
have had alone. -/
theorem runs_change_places (hk : k.Steady) {start : State σ} (hrows : start.rows = [])
    (cmds : List Command) {id₁ id₂ : String} (hne : id₁ ≠ id₂) (ignore₁ ignore₂ : Option Bool)
    (news₁ news₂ : Option Lead) :
    let s := carry c k cmds start
    let first := fun s : State σ => (advance c k id₁ ignore₁ news₁).after s
    let second := fun s : State σ => (advance c k id₂ ignore₂ news₂).after s
    ((first s).rows.find? id₂ = s.rows.find? id₂ ∧
        (first s).timers.jobsOf id₂ = s.timers.jobsOf id₂) ∧
      (((delete id₁).after s).rows.find? id₂ = s.rows.find? id₂ ∧
        ((delete id₁).after s).timers.jobsOf id₂ = s.timers.jobsOf id₂) ∧
      (first (second s)).rows = (second (first s)).rows ∧
      (first (second s)).timers.jobs.Perm (second (first s)).timers.jobs ∧
      ((advance c k id₁ ignore₁ news₁).run (second s)).1 =
        ((advance c k id₁ ignore₁ news₁).run s).1 ∧
      ((advance c k id₂ ignore₂ news₂).run (first s)).1 =
        ((advance c k id₂ ignore₂ news₂).run s).1 := by
  intro s first second
  have hrun : Alike True id₂ s (first s) := Invocation.apart ⟨id₁, ignore₁, news₁, s⟩ hne.symm
  have hdelete : Alike True id₂ s ((delete id₁).after s) := delete_apart hne.symm s
  have heither := Alike.either_order (c := c) hk hne ignore₁ ignore₂ news₁ news₂ s
  have hids : (s.rows.map (·.id)).Nodup := carry_ids cmds (by rw [hrows]; exact List.nodup_nil)
  have hids₁₂ := ids_either_order (c := c) (k := k) id₁ id₂ ignore₁ ignore₂ news₁ news₂ s
  have hids₂₁ := ids_either_order (c := c) (k := k) id₂ id₁ ignore₂ ignore₁ news₂ news₁ s
  refine ⟨⟨hrun.row, hrun.jobs trivial⟩, ⟨hdelete.row, hdelete.jobs trivial⟩, ?_, ?_, ?_, ?_⟩
  · refine rows_eq_of_find? ?_ (hids₂₁.trans hids₁₂.symm) fun id => (heither id).row
    rw [hids₁₂]
    exact hids
  · exact Timers.perm_of_jobsOf fun id => (heither id).jobs trivial
  · exact (Alike.swap hk hne ignore₁ ignore₂ news₁ news₂ s).result
  · exact (Alike.swap hk hne.symm ignore₂ ignore₁ news₂ news₁ s).result

/-- Two enrollments of the sample's workflow that both wait. -/
def Sample.pair : List Command :=
  [.operate (.enroll "flow" Sample.lead Enrollment.trialSource .none),
    .operate (.enroll "flow" Sample.lead Enrollment.trialSource .none),
    .operate (.setClock ⟨63870172800 * second, some 0⟩)]

theorem Sample.collaborators_steady : Sample.collaborators.Steady := fun _ _ _ => rfl

/-- Two enrollments of one workflow, both of which have a timer and are run to their end. -/
theorem runs_change_places_pair :
    let s := carry Sample.config Sample.collaborators Sample.pair Sample.started
    let first := fun s => (advance Sample.config Sample.collaborators "enrollment-1" none none).after s
    let second := fun s => (advance Sample.config Sample.collaborators "enrollment-2" none none).after s
    (s.timers.jobs.map (·.id) = ["enrollment-1", "enrollment-2"] ∧
      (second (first s)).rows.map (fun r => (r.id, r.steps.length)) =
        [("enrollment-1", 5), ("enrollment-2", 5)]) ∧
    (first s).rows.find? "enrollment-2" = s.rows.find? "enrollment-2" ∧
    (first (second s)).rows = (second (first s)).rows := by
  have hplaces := @runs_change_places Unit Sample.config Sample.collaborators
    Sample.collaborators_steady Sample.started (start_idle Sample.service).rows Sample.pair
    "enrollment-1" "enrollment-2" (by decide) none none none none
  exact ⟨by decide +kernel, hplaces.1.1, hplaces.2.2.1⟩

end Service
end Cadence
