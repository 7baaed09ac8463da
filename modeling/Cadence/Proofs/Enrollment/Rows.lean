/-
# Rows that grow

Whatever is done to an enrollment's row keeps its id and its workflow and leaves the steps that are
there; new ones are added at the end. `Grown` says this of two states of the store: one enrollment
got further steps, and of the others not even that.

Key definitions: `recorded`, `Grown`.
Key theorems: `grown_modify`, `recordRun_eq_ok`.
-/
import Cadence.Enrollment.Rows
import Mathlib.Data.List.Forall2
import Mathlib.Tactic.Common

namespace Cadence
namespace Enrollment

open Time

/-- A row after a run was recorded in it. -/
def recorded (steps : List Step) (status : Status) (completedAt resumeAt : Option Moment)
    (r : Row) : Row :=
  { r with
    status
    completedAt := completedAt.map Moment.iso
    resumeAt := resumeAt.map Moment.iso
    steps := r.steps ++ steps.map StepRow.ofStep }

/-- A run is recorded in the row with its id, if there is one. -/
theorem recordRun_eq_ok {rows : Rows} {id : String} (h : (rows.find? id).isSome = true)
    (steps : List Step) (status : Status) (completedAt resumeAt : Option Moment) :
    rows.recordRun id steps status.name completedAt resumeAt =
      .ok (rows.modify id (recorded steps status completedAt resumeAt)) := by
  unfold Rows.recordRun
  rw [if_neg (by rw [Option.isNone_eq_false_iff.2 h]; exact Bool.false_ne_true)]
  cases status <;> rfl

/-- The rows after the enrollment with an id got further steps. -/
def Grown (id : String) (new : List StepRow) : Rows → Rows → Prop :=
  List.Forall₂ fun r r' => r'.id = r.id ∧ r'.workflowId = r.workflowId ∧
    r'.steps = if r.id = id then r.steps ++ new else r.steps

theorem Grown.refl (id : String) (rows : Rows) : Grown id [] rows rows := by
  unfold Grown
  rw [List.forall₂_same]
  intro r _
  refine ⟨rfl, rfl, ?_⟩
  split
  · rw [List.append_nil]
  · rfl

theorem grown_modify {id : String} {new : List StepRow} {f : Row → Row}
    (hf : ∀ r, (f r).id = r.id ∧ (f r).workflowId = r.workflowId ∧
      (f r).steps = r.steps ++ new) : ∀ rows : Rows, Grown id new rows (rows.modify id f)
  | [] => .nil
  | r :: rows => by
    refine .cons ?_ (grown_modify hf rows)
    dsimp only
    split
    · exact hf r
    · exact ⟨rfl, rfl, rfl⟩

theorem modify_self (rows : Rows) (id : String) : rows.modify id (fun r => r) = rows := by
  unfold Rows.modify
  simp

/-- Changing a row twice is changing it once, if it keeps its id. -/
theorem modify_modify {id : String} {f g : Row → Row} (hf : ∀ r, (f r).id = r.id) (rows : Rows) :
    (rows.modify id f).modify id g = rows.modify id (g ∘ f) := by
  unfold Rows.modify
  rw [List.map_map]
  refine List.map_congr_left ?_
  intro r _
  by_cases hr : r.id = id
  · simp only [Function.comp_apply, hr, if_true, hf]
  · simp only [Function.comp_apply, hr, if_false]

theorem mem_modify {rows : Rows} {id : String} {f : Row → Row} {r' : Row}
    (h : r' ∈ rows.modify id f) : ∃ r ∈ rows, r' = if r.id = id then f r else r := by
  obtain ⟨r, hr, rfl⟩ := List.mem_map.1 h
  exact ⟨r, hr, rfl⟩

/-- Changing a row leaves the others. -/
theorem mem_modify_of_ne {rows : Rows} {id : String} {f : Row → Row} (hf : ∀ r, (f r).id = r.id)
    {r : Row} (h : r.id ≠ id) : r ∈ rows.modify id f ↔ r ∈ rows := by
  constructor
  · intro hr
    obtain ⟨r₀, hr₀, rfl⟩ := mem_modify hr
    by_cases heq : r₀.id = id
    · rw [if_pos heq, hf] at h
      exact absurd heq h
    · rw [if_neg heq]
      exact hr₀
  · intro hr
    exact List.mem_map.2 ⟨r, hr, if_neg h⟩

theorem modify_ids {id : String} {f : Row → Row} (hf : ∀ r, (f r).id = r.id) (rows : Rows) :
    (rows.modify id f).map (·.id) = rows.map (·.id) := by
  unfold Rows.modify
  rw [List.map_map]
  refine List.map_congr_left ?_
  intro r _
  by_cases hr : r.id = id
  · simp only [Function.comp_apply, hr, if_true, hf]
  · simp only [Function.comp_apply, hr, if_false]

/-- The rows of a store that has grown have the same ids. -/
theorem Grown.ids {id : String} {new : List StepRow} : ∀ {rows rows' : Rows},
    Grown id new rows rows' → rows'.map (·.id) = rows.map (·.id)
  | _, _, .nil => rfl
  | _, _, .cons h hs => by rw [List.map_cons, List.map_cons, h.1, Grown.ids hs]

/-- A row is found by its id alone. -/
theorem find?_isSome {rows : Rows} {id : String} :
    (rows.find? id).isSome = true ↔ id ∈ rows.map (·.id) := by
  unfold Rows.find?
  rw [List.find?_isSome, List.mem_map]
  simp

theorem Grown.find?_isSome {id id' : String} {new : List StepRow} {rows rows' : Rows}
    (h : Grown id new rows rows') : (rows'.find? id').isSome = (rows.find? id').isSome := by
  rw [Bool.eq_iff_iff, Enrollment.find?_isSome, Enrollment.find?_isSome, h.ids]

/-- A row of a store that has grown was there before. -/
theorem Grown.mem {id : String} {new : List StepRow} {rows rows' : Rows}
    (h : Grown id new rows rows') {r' : Row} (hr : r' ∈ rows') : ∃ r ∈ rows, r'.id = r.id ∧
      r'.workflowId = r.workflowId ∧ r'.steps = if r.id = id then r.steps ++ new else r.steps := by
  induction h with
  | nil => exact absurd hr List.not_mem_nil
  | cons h _ ih =>
    rcases List.mem_cons.1 hr with rfl | hr
    · exact ⟨_, List.mem_cons_self, h⟩
    · obtain ⟨r, hmem, hr⟩ := ih hr
      exact ⟨r, List.mem_cons_of_mem _ hmem, hr⟩

end Enrollment
end Cadence
