/-
# Windows over midnight

A window whose start is after its end is open over midnight. `Night` is such a night, from the start
on the date on which it opens to the end on the next date, to the minute.

A window asks two separate questions of a moment, for the day of the week and for the time of day,
and both of the date on which the moment itself lies. So a night does not belong to the date on
which it opens: a moment is let through if it lies in some night and its own date is on an allowed
day (`open_overnight_iff`). After midnight this is the question for the opening date only where both
dates are allowed or both are not.

Key definitions: `Night`.
Key theorems: `night_iff`, `exists_night_iff`, `open_overnight_iff`.
-/
import Cadence.Proofs.Workflow.Hours

namespace Cadence
namespace Workflow

open Time

/-- A reading of a clock lies in the night that opens on a date: between the start on that date and
the end on the next one, the minute of the end included. -/
def Night (start finish : Nat) (d : Date) (reading : Int) : Prop :=
  dayOf d * day + start * minute ≤ reading ∧
    reading < (dayOf d + 1) * day + (finish + 1) * minute

section
variable {start finish : Nat} {m : Moment}

/-- A moment in a night lies on the opening date from the start on, or on the next date up to the
end. -/
theorem night_iff (h0 : 0 ≤ m.reading) (hstart : start < 1440) (hlt : finish < start) (d : Date) :
    Night start finish d m.reading ↔ dayOf d = m.dayNumber ∧ start ≤ m.minuteOfDay ∨
      dayOf d + 1 = m.dayNumber ∧ m.minuteOfDay ≤ finish := by
  unfold Night Moment.dayNumber Moment.minuteOfDay minute day second
  omega

/-- A moment lies in a night that opens on one of some days of the week if it lies on such a day
from the start on, or on the day after such a day up to the end. -/
theorem exists_night_iff (h1 : day ≤ m.reading) (h2 : m.reading < endOfTime) (hstart : start < 1440)
    (hlt : finish < start) (opens : Nat → Prop) :
    (∃ d : Date, d.isValid = true ∧ opens (weekday (dayOf d)) ∧ Night start finish d m.reading) ↔
      opens m.weekday ∧ start ≤ m.minuteOfDay ∨
        opens (weekday (m.dayNumber - 1)) ∧ m.minuteOfDay ≤ finish := by
  have hnumber : 1 ≤ m.dayNumber ∧ m.dayNumber < 3652059 := by
    unfold Moment.dayNumber
    unfold endOfTime day second at *
    omega
  have h0 : 0 ≤ m.reading := Int.le_trans (by decide) h1
  constructor
  · rintro ⟨d, -, hopens, hnight⟩
    rcases (night_iff h0 hstart hlt d).1 hnight with ⟨hday, hle⟩ | ⟨hday, hle⟩
    · rw [hday] at hopens
      exact Or.inl ⟨hopens, hle⟩
    · rw [← hday, Nat.add_sub_cancel]
      exact Or.inr ⟨hopens, hle⟩
  · have hdate : ∀ n, n < 3652059 → opens (weekday n) →
        (n = m.dayNumber ∧ start ≤ m.minuteOfDay ∨ n + 1 = m.dayNumber ∧ m.minuteOfDay ≤ finish) →
        ∃ d : Date, d.isValid = true ∧ opens (weekday (dayOf d)) ∧
          Night start finish d m.reading := by
      intro n hn hopens h
      refine ⟨dateOf n, dateOf_valid hn, ?_, ?_⟩
      · rwa [dayOf_dateOf]
      · rwa [night_iff h0 hstart hlt, dayOf_dateOf]
    rintro (⟨hopens, hle⟩ | ⟨hopens, hle⟩)
    · exact hdate m.dayNumber hnumber.2 hopens (Or.inl ⟨rfl, hle⟩)
    · exact hdate (m.dayNumber - 1) (by omega) hopens (Or.inr ⟨by omega, hle⟩)

end

namespace SendWindow

/-- **A night does not belong to the date on which it opens.** The night of a Friday is over at
midnight where only Fridays are allowed, although it goes on until six. -/
theorem friday_night_ends_at_midnight :
    let w := Sample.nights [5]
    let m := Sample.halfPastMidnight 6
    w.enabled = true ∧ minutesOf? w.startTime = some 1320 ∧ minutesOf? w.endTime = some 360 ∧
      zoneOr homeZone w.timezone = .ok Sample.universal ∧ Sample.universal.IsSteady 0 ∧
      m.IsInner ∧ allows homeZone (some w) m = .ok false ∧
      ∃ d : Date, d.isValid = true ∧ (weekday (dayOf d) : Int) ∈ w.allowedDays ∧
        Night 1320 360 d (m.seenAt 0).reading := by
  have hinner := Sample.halfPastMidnight_isInner (Or.inr rfl)
  have hanswer := allows_steady (w := Sample.nights [5]) rfl Sample.zoneOr_universal
    Sample.universal_isSteady hinner
  have hshut : (Sample.nights [5]).holds ((Sample.halfPastMidnight 6).seenAt 0) = false := by
    decide
  refine ⟨rfl, Sample.nights_start [5], Sample.nights_end [5], Sample.zoneOr_universal,
    Sample.universal_isSteady, hinner, ?_, ⟨2024, 1, 5⟩, by decide, by decide, ?_⟩
  · rw [← hshut]
    exact hanswer
  · unfold Night
    decide

variable {default : String} {w : SendWindow} {zone : Zone} {offset : Int} {m : Moment}
  {start finish : Nat}

/-- **A window over midnight** lets a moment through if it lies in some night and the date on which
it lies itself is on an allowed day. That is to ask whether the night opened on an allowed day exactly
where the end is over, or where the day before is allowed just as the day itself is. -/
theorem open_overnight_iff (henabled : w.enabled = true)
    (hstart : minutesOf? w.startTime = some start) (hfinish : minutesOf? w.endTime = some finish)
    (hlt : finish < start) (hdays : w.allowedDays ≠ [])
    (hzone : zoneOr default w.timezone = .ok zone) (hsteady : zone.IsSteady offset)
    (hm : m.IsInner) :
    let here := m.seenAt offset
    ∃ answer, allows default (some w) m = .ok answer ∧
      (answer = true ↔ (here.weekday : Int) ∈ w.allowedDays ∧
        ∃ d : Date, d.isValid = true ∧ Night start finish d here.reading) ∧
      ((answer = true ↔ ∃ d : Date, d.isValid = true ∧ (weekday (dayOf d) : Int) ∈ w.allowedDays ∧
          Night start finish d here.reading) ↔
        finish < here.minuteOfDay ∨ ((weekday (here.dayNumber - 1) : Int) ∈ w.allowedDays ↔
          (here.weekday : Int) ∈ w.allowedDays)) := by
  intro here
  obtain ⟨hfrom, huntil⟩ : day ≤ here.reading ∧ here.reading < endOfTime :=
    hm.seen (isShort_of_steady hzone hsteady)
  have hbelow := minutesOf?_lt hstart
  have hnights := exists_night_iff hfrom huntil hbelow hlt fun _ => True
  have hopened := exists_night_iff hfrom huntil hbelow hlt fun n => (n : Int) ∈ w.allowedDays
  have hholds : w.holds here = true ↔ (here.weekday : Int) ∈ w.allowedDays ∧
      (start ≤ here.minuteOfDay ∨ here.minuteOfDay ≤ finish) := by
    rw [holds_iff hstart hfinish, or_iff_right hdays, spans, if_neg (by omega), if_neg (by omega),
      Bool.or_eq_true, decide_eq_true_eq, decide_eq_true_eq]
  simp only [true_and] at hnights
  refine ⟨w.holds here, allows_steady henabled hzone hsteady hm, ?_, ?_⟩
  · rw [hholds, hnights]
  · rw [hholds, hopened]
    -- up to the end two days are asked for, the moment's own and the one before
    by_cases hafter : finish < here.minuteOfDay
    · have hno : ¬ here.minuteOfDay ≤ finish := by omega
      simp [hafter, hno]
    · have hyes : here.minuteOfDay ≤ finish := by omega
      have hbefore : ¬ start ≤ here.minuteOfDay := by omega
      simp [hafter, hyes, hbefore, iff_comm]

/-- The first hours of a Friday are open where only Fridays are allowed, although they belong to the
night of a Thursday. -/
theorem open_overnight_iff_friday :
    let w := Sample.nights [5]
    let m := Sample.halfPastMidnight 5
    allows homeZone (some w) m = .ok true ∧
      ¬ ∃ d : Date, d.isValid = true ∧ (weekday (dayOf d) : Int) ∈ w.allowedDays ∧
        Night 1320 360 d (m.seenAt 0).reading := by
  have hinner := Sample.halfPastMidnight_isInner (Or.inl rfl)
  obtain ⟨answer, hallows, hopen, hsame⟩ := open_overnight_iff rfl (Sample.nights_start [5])
    (Sample.nights_end [5]) (by decide) (List.cons_ne_nil _ _) Sample.zoneOr_universal
    Sample.universal_isSteady hinner
  have hyes : answer = true := by
    refine hopen.2 ⟨by decide, ⟨2024, 1, 4⟩, by decide, ?_⟩
    unfold Night
    decide
  refine ⟨hyes ▸ hallows, fun hopened => ?_⟩
  rcases hsame.1 (iff_of_true hyes hopened) with hlate | hboth
  · exact absurd hlate (by decide)
  · exact absurd hboth (by decide)

end SendWindow
end Workflow
end Cadence
