/-
# Due times in the store

The store lists the enrollments that have due times, those due first first, as far as the texts of
due times tell. Each is listed once (`scheduledTexts_nodup`), and all of them can be listed if the
texts can be read (`scheduled_eq_ok`). What is due at a moment is what the list has up to then
(`dueAt_eq_ok`): its order is that of the list.

Key theorems: `mem_scheduledTexts`, `scheduledTexts_sorted`, `scheduled_eq_ok`, `dueAt_eq_ok`.
-/
import Cadence.Enrollment.Rows
import Cadence.Proofs.Checks

namespace Cadence
namespace Enrollment

open Time

section
variable {rows : Rows}

theorem mem_scheduledTexts {entry : String × String} :
    entry ∈ rows.scheduledTexts ↔ ∃ r ∈ rows, r.id = entry.1 ∧ r.resumeAt = some entry.2 := by
  unfold Rows.scheduledTexts
  rw [List.mem_mergeSort, List.mem_filterMap]
  constructor
  · rintro ⟨r, hr, h⟩
    obtain ⟨text, htext, rfl⟩ := Option.map_eq_some_iff.1 h
    exact ⟨r, hr, rfl, htext⟩
  · rintro ⟨r, hr, hid, htext⟩
    refine ⟨r, hr, ?_⟩
    rw [htext, Option.map_some, hid]

/-- Due times are listed in the order of their texts. -/
theorem scheduledTexts_sorted : rows.scheduledTexts.Pairwise fun a b => a.2 ≤ b.2 := by
  have hsorted : rows.scheduledTexts.Pairwise fun a b => decide (a.2 ≤ b.2) = true := by
    refine List.pairwise_mergeSort ?_ ?_ _
    · intro a b c hab hbc
      rw [decide_eq_true_eq] at hab hbc ⊢
      exact String.le_trans hab hbc
    · intro a b
      rw [Bool.or_eq_true, decide_eq_true_eq, decide_eq_true_eq]
      exact String.le_total a.2 b.2
  exact hsorted.imp of_decide_eq_true

/-- An enrollment is listed once. -/
theorem scheduledTexts_nodup (hids : (rows.map (·.id)).Nodup) :
    (rows.scheduledTexts.map (·.1)).Nodup := by
  have hperm : (rows.scheduledTexts.map (·.1)).Perm
      ((rows.filterMap fun r => r.resumeAt.map (r.id, ·)).map (·.1)) :=
    (List.mergeSort_perm _ _).map _
  refine hperm.nodup_iff.2 (hids.sublist ?_)
  clear hperm hids
  induction rows with
  | nil => exact .slnil
  | cons r rows ih =>
    cases hdue : r.resumeAt with
    | none =>
      rw [List.filterMap_cons_none (by rw [hdue, Option.map_none])]
      exact ih.cons _
    | some text =>
      rw [List.filterMap_cons_some (by rw [hdue, Option.map_some])]
      exact ih.cons_cons _

/-- The list can be read if each due time can. -/
theorem scheduled_eq_ok {jobs : List (String × Moment)} : rows.scheduled = .ok jobs ↔
    List.Forall₂ (fun entry job => job.1 = entry.1 ∧ Moment.ofIso? entry.2 = some job.2)
      rows.scheduledTexts jobs := by
  unfold Rows.scheduled
  rw [mapM_eq_ok]
  constructor
  · intro h
    refine h.imp fun entry job hone => ?_
    obtain ⟨id, text⟩ := entry
    cases hread : Moment.ofIso? text with
    | none =>
      simp only [hread] at hone
      cases hone
    | some m =>
      simp only [hread] at hone
      cases hone
      exact ⟨rfl, rfl⟩
  · intro h
    refine h.imp fun entry job hone => ?_
    obtain ⟨hid, hread⟩ := hone
    simp only [hread, ← hid]

/-- A list that cannot be read is not empty. -/
theorem due_of_unreadable {f : Fault} (h : rows.scheduled = .error f) :
    ∃ r ∈ rows, r.resumeAt.isSome = true := by
  by_contra hno
  have hnil : rows.scheduledTexts = [] := by
    refine List.eq_nil_iff_forall_not_mem.2 fun entry hentry => ?_
    obtain ⟨r, hr, -, htext⟩ := mem_scheduledTexts.1 hentry
    exact hno ⟨r, hr, by rw [htext]; rfl⟩
  have hok : rows.scheduled = .ok [] := scheduled_eq_ok.2 (by rw [hnil]; exact .nil)
  rw [h] at hok
  cases hok

/-- The enrollments are in the order of the list, with or without the due times read. -/
theorem scheduled_ids {jobs : List (String × Moment)} (h : rows.scheduled = .ok jobs) :
    jobs.map (·.1) = rows.scheduledTexts.map (·.1) := by
  have hall := scheduled_eq_ok.1 h
  generalize rows.scheduledTexts = entries at hall ⊢
  clear h
  induction hall with
  | nil => rfl
  | cons hone _ ih => rw [List.map_cons, List.map_cons, hone.1, ih]

/-- A due time that is listed is one that a row has. -/
theorem mem_scheduled {jobs : List (String × Moment)} (h : rows.scheduled = .ok jobs)
    {job : String × Moment} (hjob : job ∈ jobs) :
    ∃ r ∈ rows, r.id = job.1 ∧ ∃ text ∈ r.resumeAt, Moment.ofIso? text = some job.2 := by
  have hentry : ∃ entry ∈ rows.scheduledTexts, job.1 = entry.1 ∧
      Moment.ofIso? entry.2 = some job.2 := exists_of_mem_right (scheduled_eq_ok.1 h) hjob
  obtain ⟨entry, hmem, hid, hread⟩ := hentry
  obtain ⟨r, hr, hid', htext⟩ := mem_scheduledTexts.1 hmem
  exact ⟨r, hr, hid'.trans hid.symm, entry.2, htext, hread⟩

/-- A row with a due time is listed. -/
theorem scheduled_of_mem {jobs : List (String × Moment)} (h : rows.scheduled = .ok jobs) {r : Row}
    (hr : r ∈ rows) {text : String} (htext : r.resumeAt = some text) :
    ∃ job ∈ jobs, job.1 = r.id ∧ Moment.ofIso? text = some job.2 :=
  exists_of_mem_left (a := (r.id, text)) (scheduled_eq_ok.1 h)
    (mem_scheduledTexts.2 ⟨r, hr, rfl, htext⟩)

/-- **What is due at a moment** is what the list has up to then, if all of it can be compared. -/
theorem dueAt_eq_ok {now : Moment} {due : List String} : rows.dueAt now = .ok due ↔
    ∃ jobs, rows.scheduled = .ok jobs ∧ (∀ job ∈ jobs, (job.2.le? now).isSome = true) ∧
      due = (jobs.filter fun job => job.2.le? now = some true).map (·.1) := by
  unfold Rows.dueAt
  rw [bind_eq_ok]
  refine exists_congr fun jobs => and_congr_right fun _ => ?_
  refine filterMapM_eq_ok (fun job hjob => ?_) (fun job hjob => ?_) (fun job hjob => ?_)
  · simp only [hjob]
  · simp only [hjob]
  · simp only [hjob]
    exact ⟨_, rfl⟩

/-- Nothing is due twice. -/
theorem dueAt_nodup {now : Moment} {due : List String} (hids : (rows.map (·.id)).Nodup)
    (h : rows.dueAt now = .ok due) : due.Nodup := by
  obtain ⟨jobs, hjobs, -, rfl⟩ := dueAt_eq_ok.1 h
  have hall : (jobs.map (·.1)).Nodup := by
    rw [scheduled_ids hjobs]
    exact scheduledTexts_nodup hids
  exact hall.sublist (List.filter_sublist.map _)

end

end Enrollment
end Cadence
