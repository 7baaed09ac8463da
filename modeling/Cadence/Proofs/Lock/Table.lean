/-
# Locks as lines

What a table of locks amounts to is a line for each key: the task that holds the lock, and behind it
those that wait for it, in the order in which they came (`LockTable.line`). Coming for a lock is
going to the end of its line, and the lock is had at once if there was nobody; leaving takes the
first one off, and who is next has the lock (`Sound.line_enter`, `Sound.line_leave`). Other lines
stay as they are. What follows for who stands where is said once for all that use locks
(`Sound.mem_enter`, `Sound.head_enter`, `Sound.line_leave_erase`).

This is so as long as every lock that is registered is held (`LockTable.Sound`), which entering and
leaving keep so. A task that gives up waiting is not considered here.

Key definitions: `LockTable.line`, `LockTable.Sound`.
Key theorems: `Sound.line_enter`, `Sound.enter_granted`, `Sound.line_leave`, `Sound.leave_next`.
-/
import Cadence.Lock.Table
import Mathlib.Data.List.Nodup

namespace Cadence
namespace LockTable

/-- The tasks at an entry: the one that holds its lock, then those that wait for it. -/
def Entry.line (e : Entry) : List Nat := e.holder.toList ++ e.waiters

/-- The tasks that came for a key and have not gone yet, in order. -/
def line (l : LockTable) (key : String) : List Nat := ((l.get? key).map Entry.line).getD []

/-- Each key has one entry, whose lock is held and whose users are counted. -/
structure Sound (l : LockTable) : Prop where
  keys : (l.entries.map (·.key)).Nodup
  held : ∀ e ∈ l.entries, e.holder.isSome = true ∧ e.users = e.waiters.length + 1

theorem sound_empty : empty.Sound := ⟨List.nodup_nil, nofun⟩

@[simp] theorem line_empty (key : String) : empty.line key = [] := rfl

variable {l : LockTable} {key key' : String}

/-! ### Entries -/

theorem mem_of_get? {e : Entry} (h : l.get? key = some e) : e ∈ l.entries ∧ e.key = key :=
  ⟨List.mem_of_find?_eq_some h, by simpa using List.find?_some h⟩

theorem line_of_get? {e : Entry} (h : l.get? key = some e) : l.line key = e.line := by
  unfold line
  rw [h]
  rfl

theorem line_of_none (h : l.get? key = none) : l.line key = [] := by
  unfold line
  rw [h]
  rfl

/-- A lock that is registered is held. -/
theorem Sound.line_eq (h : l.Sound) {e : Entry} (hget : l.get? key = some e) :
    ∃ holder, e.holder = some holder ∧ l.line key = holder :: e.waiters := by
  obtain ⟨holder, hholder⟩ := Option.isSome_iff_exists.1 (h.held e (mem_of_get? hget).1).1
  refine ⟨holder, hholder, ?_⟩
  rw [line_of_get? hget, Entry.line, hholder]
  rfl

/-- An entry that was put in place of that of its key is found, if somebody uses it; no other entry
has changed. -/
theorem get?_put (l : LockTable) (e : Entry) (key : String) :
    (l.put e).get? key =
      if key = e.key then (if e.users = 0 then none else (l.get? e.key).map fun _ => e)
      else l.get? key := by
  unfold put get?
  dsimp only
  induction l.entries with
  | nil => simp
  | cons old rest ih =>
    rw [List.filterMap_cons]
    by_cases hold : old.key = e.key
    · -- the entry of the key itself goes, or the new one comes in its place
      by_cases husers : e.users = 0
      · simp only [hold, husers, if_true] at ih ⊢
        rw [ih]
        by_cases hkey : key = e.key
        · rw [if_pos hkey, if_pos hkey]
        · rw [if_neg hkey, if_neg hkey, List.find?_cons_of_neg (by simpa [hold] using Ne.symm hkey)]
      · simp only [hold, husers, if_true, if_false] at ih ⊢
        by_cases hkey : key = e.key
        · rw [if_pos hkey, List.find?_cons_of_pos (by simp [hkey]),
            List.find?_cons_of_pos (by simp [hold])]
          rfl
        · have hne : ¬ e.key = key := Ne.symm hkey
          rw [if_neg hkey] at ih ⊢
          rw [List.find?_cons_of_neg (by simpa using hne),
            List.find?_cons_of_neg (by simpa [hold] using hne)]
          exact ih
    · simp only [hold, if_false]
      by_cases hkey : old.key = key
      · have hne : key ≠ e.key := fun heq => hold (hkey.trans heq)
        rw [if_neg hne, List.find?_cons_of_pos (by simpa using hkey),
          List.find?_cons_of_pos (by simpa using hkey)]
      · rw [List.find?_cons_of_neg (by simpa using hkey), ih,
          List.find?_cons_of_neg (by simpa using hold), List.find?_cons_of_neg (by simpa using hkey)]

/-- The lines after an entry was put in place of that of its key. -/
theorem line_put {e : Entry} (he : e.users = e.line.length) (hget : (l.get? e.key).isSome = true)
    (key : String) : (l.put e).line key = if key = e.key then e.line else l.line key := by
  unfold line
  rw [get?_put]
  by_cases hkey : key = e.key
  · rw [if_pos hkey, if_pos hkey]
    by_cases husers : e.users = 0
    · rw [if_pos husers]
      exact (List.eq_nil_of_length_eq_zero (he ▸ husers)).symm
    · rw [if_neg husers]
      obtain ⟨old, hold⟩ := Option.isSome_iff_exists.1 hget
      rw [hold]
      rfl
  · rw [if_neg hkey, if_neg hkey]

theorem Sound.put (h : l.Sound) {e : Entry} (he : e.users = e.line.length)
    (hheld : e.users ≠ 0 → e.holder.isSome = true) : (l.put e).Sound := by
  have hmem : ∀ e' ∈ (l.put e).entries, e'.key = e.key ∧ e' = e ∧ e.users ≠ 0 ∨ e' ∈ l.entries := by
    intro e' he'
    obtain ⟨old, hold, heq⟩ := List.mem_filterMap.1 he'
    split at heq
    · split at heq
      · cases heq
      · cases heq
        exact Or.inl ⟨rfl, rfl, ‹_›⟩
    · cases heq
      exact Or.inr hold
  refine ⟨?_, ?_⟩
  · refine h.keys.sublist ?_
    unfold LockTable.put
    dsimp only
    induction l.entries with
    | nil => exact .slnil
    | cons old rest ih =>
      rw [List.filterMap_cons]
      by_cases hold : old.key = e.key
      · rw [if_pos hold]
        by_cases husers : e.users = 0
        · rw [if_pos husers] at ih ⊢
          exact ih.cons _
        · rw [if_neg husers] at ih ⊢
          simpa [hold] using ih
      · rw [if_neg hold]
        simpa using ih
  · intro e' he'
    rcases hmem e' he' with ⟨-, rfl, husers⟩ | hold
    · obtain ⟨holder, hholder⟩ := Option.isSome_iff_exists.1 (hheld husers)
      refine ⟨hheld husers, ?_⟩
      rw [he, Entry.line, hholder]
      simp
    · exact h.held e' hold

/-! ### Coming and going -/

/-- **Coming for a lock is going to the end of its line.** -/
theorem Sound.line_enter (h : l.Sound) (key : String) (task : Nat) (key' : String) :
    (l.enter key task).2.line key' =
      if key' = key then l.line key ++ [task] else l.line key' := by
  unfold enter
  cases hget : l.get? key with
  | none =>
    rw [line_of_none hget]
    unfold line get?
    dsimp only
    rw [List.find?_append]
    by_cases hkey : key' = key
    · unfold get? at hget
      rw [if_pos hkey, hkey, hget]
      simp [Entry.line]
    · rw [if_neg hkey]
      cases l.entries.find? (·.key = key') with
      | none => simp [Ne.symm hkey]
      | some e => rfl
  | some e =>
    obtain ⟨holder, hholder, hline⟩ := h.line_eq hget
    obtain ⟨hmem, hkey⟩ := mem_of_get? hget
    have husers := (h.held e hmem).2
    dsimp only
    rw [hholder]
    dsimp only
    rw [line_put (by simp [Entry.line, husers, Nat.add_comm]) (by simp [hkey, hget])]
    simp only [hkey, hline, Entry.line, Option.toList, List.cons_append, List.nil_append]

/-- **The lock is had at once if there was nobody in its line.** -/
theorem Sound.enter_granted (h : l.Sound) (key : String) (task : Nat) :
    (l.enter key task).1.2 = true ↔ l.line key = [] := by
  unfold enter
  cases hget : l.get? key with
  | none => simp [line_of_none hget]
  | some e =>
    obtain ⟨holder, hholder, hline⟩ := h.line_eq hget
    dsimp only
    rw [hholder, hline]
    simp

theorem Sound.enter (h : l.Sound) (key : String) (task : Nat) : (l.enter key task).2.Sound := by
  unfold LockTable.enter
  cases hget : l.get? key with
  | none =>
    have hnew : key ∉ l.entries.map (·.key) := by
      intro hmem
      obtain ⟨e, he, hkey⟩ := List.mem_map.1 hmem
      exact absurd hkey (by simpa using List.find?_eq_none.1 hget e he)
    refine ⟨?_, ?_⟩
    · rw [List.map_append, List.nodup_append]
      refine ⟨h.keys, List.nodup_singleton _, ?_⟩
      intro k₁ h₁ k₂ h₂ heq
      rw [List.map_singleton, List.mem_singleton] at h₂
      rw [heq, h₂] at h₁
      exact hnew h₁
    · intro e he
      rcases List.mem_append.1 he with he | he
      · exact h.held e he
      · rw [List.mem_singleton.1 he]
        exact ⟨rfl, rfl⟩
  | some e =>
    obtain ⟨holder, hholder, -⟩ := h.line_eq hget
    have husers := (h.held e (mem_of_get? hget).1).2
    dsimp only
    rw [hholder]
    refine h.put ?_ fun _ => rfl
    simp [Entry.line, husers, Nat.add_comm]

/-- **Leaving takes the first one off the line.** -/
theorem Sound.line_leave (h : l.Sound) (key key' : String) :
    (l.leave key).2.line key' = if key' = key then (l.line key).tail else l.line key' := by
  unfold leave
  cases hget : l.get? key with
  | none =>
    rw [line_of_none hget]
    by_cases hkey : key' = key
    · rw [if_pos hkey, hkey, line_of_none hget]
      rfl
    · rw [if_neg hkey]
  | some e =>
    obtain ⟨holder, hholder, hline⟩ := h.line_eq hget
    obtain ⟨hmem, hkey⟩ := mem_of_get? hget
    have husers := (h.held e hmem).2
    dsimp only
    rw [line_put (by cases hw : e.waiters <;> simp [Entry.line, husers, hw]) (by simp [hkey, hget])]
    rw [hkey, hline]
    cases hw : e.waiters <;> simp [Entry.line]

/-- **Who is next in the line has the lock then.** -/
theorem Sound.leave_next (h : l.Sound) (key : String) : (l.leave key).1 = (l.line key).tail.head? := by
  unfold leave
  cases hget : l.get? key with
  | none => rw [line_of_none hget]; rfl
  | some e =>
    obtain ⟨holder, -, hline⟩ := h.line_eq hget
    rw [hline]
    rfl

theorem Sound.leave (h : l.Sound) (key : String) : (l.leave key).2.Sound := by
  unfold LockTable.leave
  cases hget : l.get? key with
  | none => exact h
  | some e =>
    have husers := (h.held e (mem_of_get? hget).1).2
    refine h.put ?_ ?_
    · cases hw : e.waiters <;> simp [Entry.line, husers, hw]
    · intro hsome
      cases hw : e.waiters with
      | nil => exact absurd (by simp [husers, hw]) hsome
      | cons next rest => rfl

/-! ### Who stands in line -/

/-- When a task has come, it stands in its line, and nothing else has changed about who stands
where. -/
theorem Sound.mem_enter (h : l.Sound) {task m : Nat} : m ∈ (l.enter key task).2.line key' ↔
    m ∈ l.line key' ∨ key' = key ∧ m = task := by
  rw [h.line_enter]
  by_cases hkey : key' = key
  · rw [if_pos hkey, hkey, List.mem_append, List.mem_singleton, and_iff_right rfl]
  · rw [if_neg hkey, or_iff_left fun hcame => hkey hcame.1]

theorem Sound.nodup_enter (h : l.Sound) (hnodup : ∀ key, (l.line key).Nodup) {task : Nat}
    (hnew : task ∉ l.line key) (key' : String) : ((l.enter key task).2.line key').Nodup := by
  rw [h.line_enter]
  split
  · rw [← List.concat_eq_append]
    exact (hnodup key).concat hnew
  · exact hnodup key'

/-- When a task has come, the first one in a line is who was it before, or the task itself, which
has the lock then. -/
theorem Sound.head_enter (h : l.Sound) {task m : Nat} :
    ((l.enter key task).2.line key').head? = some m ↔ (l.line key').head? = some m ∨
      key' = key ∧ m = task ∧ (l.enter key task).1.2 = true := by
  rw [h.line_enter, h.enter_granted]
  by_cases hkey : key' = key
  · rw [if_pos hkey, hkey, List.head?_append]
    cases l.line key <;> simp [eq_comm]
  · rw [if_neg hkey, or_iff_left fun hcame => hkey hcame.1]

/-- Behind the first one stand those that stood there before, and perhaps the task that has come. -/
theorem Sound.tail_enter (h : l.Sound) {task m : Nat}
    (hmem : m ∈ ((l.enter key task).2.line key').tail) : m ∈ (l.line key').tail ∨ m = task := by
  rw [h.line_enter] at hmem
  by_cases hkey : key' = key
  · rw [if_pos hkey] at hmem
    rw [hkey]
    cases hline : l.line key with
    | nil =>
      rw [hline] at hmem
      cases hmem
    | cons head tail =>
      rw [hline] at hmem
      exact (List.mem_append.1 hmem).imp_right List.mem_singleton.1
  · rw [if_neg hkey] at hmem
    exact Or.inl hmem

/-- When the first one in a line has left and stands in no other line, it is nowhere any more. -/
theorem Sound.line_leave_erase (h : l.Sound) {first : Nat}
    (hfirst : (l.line key).head? = some first)
    (honly : ∀ key', first ∈ l.line key' → key' = key) (key' : String) :
    (l.leave key).2.line key' = (l.line key').erase first := by
  obtain ⟨tail, htail⟩ := List.head?_eq_some_iff.1 hfirst
  rw [h.line_leave]
  by_cases hkey : key' = key
  · rw [if_pos hkey, hkey, htail, List.tail_cons, List.erase_cons_head]
  · rw [if_neg hkey, List.erase_of_not_mem fun hmem => hkey (honly key' hmem)]

end LockTable
end Cadence
