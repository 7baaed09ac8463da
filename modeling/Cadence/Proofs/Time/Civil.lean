/-
# The calendar counts days without a gap

`dateOf` gives the date of a day and `dayOf` counts the days of a date. Every day before the end of
year 9999 has a date that exists (`dateOf_valid`), and counting that date gives the day back
(`dayOf_dateOf`): the two are inverse on the days that a clock can show. Within a year the months
are walked from January on; `monthFrom_spec` says where the walk stops, and `yearOf_spec` that a day
lies between the starts of its year and of the next one.

Key theorems: `dateOf_valid`, `dayOf_dateOf`.
-/
import Cadence.Time.Civil
import Mathlib.Tactic.Common

namespace Cadence
namespace Time

/-- The number of days of a year. -/
def daysInYear (year : Nat) : Nat := if isLeap year then 366 else 365

theorem isLeap_iff (year : Nat) :
    isLeap year = true ↔ year % 4 = 0 ∧ (year % 100 ≠ 0 ∨ year % 400 = 0) := by
  simp [isLeap]

/-- How a day is placed: `a` spans of 400 years, then `b` centuries, `c` spans of four years and
`e` years lie before its year, and `r` days of its year before it. Only a leap year, the last one of
four, has room for `r = 365`; the last of a century is none unless the century is the fourth. -/
theorem yearOf_parts (day : Nat) : ∃ a b c e r, yearOf day = 400 * a + 100 * b + 4 * c + e + 1 ∧
    day = 146097 * a + 36524 * b + 1461 * c + 365 * e + r ∧ b ≤ 3 ∧ c ≤ 24 ∧ e ≤ 3 ∧
    (r < 365 ∨ r = 365 ∧ e = 3 ∧ (c = 24 → b = 3)) := by
  obtain ⟨d, hd⟩ : ∃ d, d = day % 146097 := ⟨_, rfl⟩
  obtain ⟨b, hb⟩ : ∃ b, b = min (d / 36524) 3 := ⟨_, rfl⟩
  obtain ⟨d', hd'⟩ : ∃ d', d' = d - b * 36524 := ⟨_, rfl⟩
  obtain ⟨e, he⟩ : ∃ e, e = min (d' % 1461 / 365) 3 := ⟨_, rfl⟩
  have hy : yearOf day = day / 146097 * 400 + b * 100 + d' / 1461 * 4 + e + 1 := by
    rw [he, hd', hb, hd]
    rfl
  refine ⟨day / 146097, b, d' / 1461, e, d' % 1461 - 365 * e, ?_, ?_, ?_, ?_, ?_, ?_⟩ <;> omega

theorem daysBeforeYear_parts {a b c e : Nat} (hb : b ≤ 3) (hc : c ≤ 24) (he : e ≤ 3) :
    daysBeforeYear (400 * a + 100 * b + 4 * c + e + 1) =
      146097 * a + 36524 * b + 1461 * c + 365 * e := by
  simp only [daysBeforeYear]
  omega

/-- A day lies in its year: after its start and before its end. -/
theorem yearOf_spec (day : Nat) :
    daysBeforeYear (yearOf day) ≤ day ∧
      day - daysBeforeYear (yearOf day) < daysInYear (yearOf day) := by
  obtain ⟨a, b, c, e, r, hy, hday, hb, hc, he, hr⟩ := yearOf_parts day
  have hleap := isLeap_iff (400 * a + 100 * b + 4 * c + e + 1)
  rw [hy, daysBeforeYear_parts hb hc he, daysInYear]
  refine ⟨by omega, ?_⟩
  split
  · omega
  · rename_i h
    rw [hleap] at h
    omega

theorem one_le_yearOf (day : Nat) : 1 ≤ yearOf day := by
  obtain ⟨a, b, c, e, r, hy, -⟩ := yearOf_parts day
  omega

theorem yearOf_le {day : Nat} (h : day < 3652059) : yearOf day ≤ 9999 := by
  obtain ⟨a, b, c, e, r, hy, hday, hb, hc, he, hr⟩ := yearOf_parts day
  omega

/-! ### Months -/

theorem daysInMonth_le (year month : Nat) : daysInMonth year month ≤ 31 := by
  unfold daysInMonth
  split
  · split <;> omega
  all_goals omega

theorem daysBeforeMonth_succ (year : Nat) {month : Nat} (h : 1 ≤ month) :
    daysBeforeMonth year (month + 1) = daysBeforeMonth year month + daysInMonth year month := by
  obtain ⟨m, rfl⟩ : ∃ m, month = m + 1 := ⟨month - 1, by omega⟩
  simp [daysBeforeMonth, List.range_succ]

/-- Twelve months make a year. -/
theorem daysBeforeMonth_thirteen (year : Nat) : daysBeforeMonth year 13 = daysInYear year := by
  cases h : isLeap year <;> simp [daysBeforeMonth, daysInYear, daysInMonth, List.range_succ, h]

/-- Walking on from a month stops at a month with a day that is in it, as many days after the start
of the year as the walk was to go, if the months that may be passed reach so far. -/
theorem monthFrom_spec (year : Nat) : ∀ (left month day : Nat), 1 ≤ month →
    daysBeforeMonth year month + day < daysBeforeMonth year (month + left + 1) →
    let (m, d) := monthFrom year month day left
    month ≤ m ∧ m ≤ month + left ∧ 1 ≤ d ∧ d ≤ daysInMonth year m ∧
      daysBeforeMonth year m + (d - 1) = daysBeforeMonth year month + day
  | 0, month, day, h, hd => by
    rw [Nat.add_zero, daysBeforeMonth_succ year h] at hd
    simp only [monthFrom]
    omega
  | left + 1, month, day, h, hd => by
    rw [monthFrom]
    by_cases hlt : day < daysInMonth year month
    · rw [if_pos hlt]
      simp only
      omega
    · rw [if_neg hlt]
      have hs := daysBeforeMonth_succ year h
      have ih := monthFrom_spec year left (month + 1) (day - daysInMonth year month) (by omega)
        (by rw [show month + 1 + left + 1 = month + (left + 1) + 1 by omega]; omega)
      obtain ⟨h1, h2, h3, h4, h5⟩ := ih
      refine ⟨by omega, by omega, h3, h4, ?_⟩
      rw [h5, hs]
      omega

/-- The month and the day of the month of a day. -/
theorem dateOf_spec (day : Nat) :
    1 ≤ (dateOf day).month ∧ (dateOf day).month ≤ 12 ∧ 1 ≤ (dateOf day).day ∧
      (dateOf day).day ≤ daysInMonth (dateOf day).year (dateOf day).month ∧
      dayOf (dateOf day) = day := by
  obtain ⟨hle, hlt⟩ := yearOf_spec day
  have hstart : daysBeforeMonth (yearOf day) 1 = 0 := rfl
  have hm := monthFrom_spec (yearOf day) 11 1 (day - daysBeforeYear (yearOf day)) (by omega)
    (by rw [hstart, daysBeforeMonth_thirteen]; omega)
  obtain ⟨h1, h2, h3, h4, h5⟩ := hm
  refine ⟨h1, h2, h3, h4, ?_⟩
  calc dayOf (dateOf day)
      = daysBeforeYear (yearOf day) +
          (daysBeforeMonth (yearOf day) (dateOf day).month + ((dateOf day).day - 1)) :=
        Nat.add_assoc _ _ _
    _ = daysBeforeYear (yearOf day) +
          (daysBeforeMonth (yearOf day) 1 + (day - daysBeforeYear (yearOf day))) :=
        congrArg _ h5
    _ = day := by rw [hstart]; omega

/-- **The date of a day exists.** Its year is between 1 and 9999 if the day is one of them. -/
theorem dateOf_valid {day : Nat} (h : day < 3652059) : (dateOf day).isValid = true := by
  obtain ⟨h1, h2, h3, h4, -⟩ := dateOf_spec day
  have hy : 1 ≤ (dateOf day).year ∧ (dateOf day).year ≤ 9999 := ⟨one_le_yearOf day, yearOf_le h⟩
  simp only [Date.isValid, Bool.and_eq_true, decide_eq_true_eq]
  exact ⟨⟨⟨⟨⟨hy.1, hy.2⟩, h1⟩, h2⟩, h3⟩, h4⟩

/-- **Counting the date of a day gives the day.** -/
theorem dayOf_dateOf (day : Nat) : dayOf (dateOf day) = day := (dateOf_spec day).2.2.2.2

end Time
end Cadence
