/-
# The hours of a send window

The minutes of a day stand on a circle, and the hours of a window are one arc on it: from the start
forward to the end, both included. `spans` asks for the arc in two ways, as a stretch of the day if
it does not cross midnight and as the two ends of the day if it does; `spans_iff` says that both are
the same question, how far a minute lies behind the start on the circle.

A window looks at a moment on the clock of its zone. What it finds there depends on the instant
alone, not on the offset that the moment was written with (`allows_of_instant`), and on a clock that
never changes its offset it is the instant moved by that offset (`allows_steady`).

Key definitions: `Zone.IsSteady`.
Key theorems: `spans_iff`, `allows_of_instant`, `allows_steady`, `within_hours_iff`.
-/
import Cadence.Proofs.Checks
import Cadence.Proofs.Time.Zone
import Cadence.Workflow.Policy

namespace Cadence

namespace Time

/-- A zone whose clock is always the same number of seconds away from universal time. -/
def Zone.IsSteady (z : Zone) (offset : Int) : Prop := ∀ at_, z.offsetAt at_ = offset

/-- A zone without changes is steady if it has the same offset for ever. -/
theorem Zone.isSteady_of_tail {z : Zone} {offset : Int} (hchanges : z.changes = [])
    (htail : z.tail = .steady offset) : z.IsSteady offset := by
  intro at_
  unfold Zone.offsetAt
  rw [hchanges, htail]
  rfl

namespace Moment

theorem minuteOfDay_lt (m : Moment) : m.minuteOfDay < 1440 := by
  unfold minuteOfDay minute day second
  omega

/-- What a zone's clock shows depends on the instant alone. -/
theorem inZone?_of_instant {m m' : Moment} (h : m'.instant = m.instant) (z : Zone) :
    m'.inZone? z = m.inZone? z := by
  unfold instant at h
  unfold inZone? atOffset
  rw [h]

end Moment
end Time

namespace Workflow

open Time

/-! ### The arc of a window -/

theorem minutesOf?_lt {s : String} {n : Nat} (h : minutesOf? s = some n) : n < 1440 := by
  have hclock : ∀ a b c d : Char, (do
      let h ← pair? a b
      let m ← pair? c d
      if 23 < h || 59 < m then none else some (h * 60 + m) : Option Nat) = some n → n < 1440 := by
    intro a b c d h
    obtain ⟨hour, -, h⟩ := Option.bind_eq_some_iff.1 h
    obtain ⟨min, -, h⟩ := Option.bind_eq_some_iff.1 h
    split at h
    · cases h
    · rename_i hsmall
      simp only [Bool.or_eq_true, decide_eq_true_eq] at hsmall
      obtain rfl := Option.some.inj h
      omega
  unfold minutesOf? at h
  dsimp only at h
  split at h
  · exact hclock _ _ _ _ h
  · exact hclock _ _ _ _ h
  · cases h

/-- **The hours of a window are one arc.** A minute lies in them if it is no further behind the
start than the end is, counted on the circle of a day. -/
theorem spans_iff {start finish minute : Nat} (hstart : start < 1440) (hfinish : finish < 1440)
    (hminute : minute < 1440) (hne : start ≠ finish) :
    SendWindow.spans start finish minute = true ↔
      ((minute : Int) - start) % 1440 ≤ ((finish : Int) - start) % 1440 := by
  unfold SendWindow.spans
  rw [if_neg hne]
  by_cases hlt : start < finish
  · rw [if_pos hlt, Bool.and_eq_true, decide_eq_true_eq, decide_eq_true_eq]
    omega
  · rw [if_neg hlt, Bool.or_eq_true, decide_eq_true_eq, decide_eq_true_eq]
    omega

/-! ### Looking at a moment -/

/-- The zone of a window is a listed one, under its own name or as the default. -/
theorem zoneOr_listed {default : String} {name : Option String} {zone : Zone}
    (h : zoneOr default name = .ok zone) : ∃ listed, Zones.lookup listed = .ok zone := by
  unfold zoneOr at h
  dsimp only at h
  split at h
  · rename_i z hz
    cases h
    exact ⟨_, hz⟩
  all_goals first | cases h | skip
  cases hdefault : Zones.lookup default with
  | ok z =>
    rw [hdefault] at h
    cases h
    exact ⟨default, hdefault⟩
  | error f =>
    rw [hdefault] at h
    cases h

/-- The steady clock of a window's zone is less than a day away from universal time. -/
theorem isShort_of_steady {default : String} {name : Option String} {zone : Zone} {offset : Int}
    (hzone : zoneOr default name = .ok zone) (hsteady : zone.IsSteady offset) :
    isShort offset = true := by
  obtain ⟨listed, hlisted⟩ := zoneOr_listed hzone
  rw [← hsteady 0]
  exact lookup_offsetAt hlisted 0

namespace SendWindow

variable {default : String} {w : SendWindow} {zone : Zone} {offset : Int} {m m' : Moment}

/-- **A window does not see with which offset a moment was written.** -/
theorem allows_of_instant (default : String) (window : Option SendWindow)
    (h : m'.instant = m.instant) : allows default window m' = allows default window m := by
  unfold allows
  simp only [Moment.inZone?_of_instant h]

/-- A window with a steady clock looks at a moment on that clock. -/
theorem allows_steady (henabled : w.enabled = true) (hzone : zoneOr default w.timezone = .ok zone)
    (hsteady : zone.IsSteady offset) (hm : m.IsInner) :
    allows default (some w) m = .ok (w.holds (m.seenAt offset)) := by
  obtain ⟨listed, hlisted⟩ := zoneOr_listed hzone
  have hseen := inZone?_eq_some hm hlisted
  rw [hsteady] at hseen
  unfold allows
  simp only [henabled, Bool.not_true, Bool.false_eq_true, if_false]
  exact bind_eq_ok.2 ⟨zone, hzone, by rw [hseen]⟩

variable {start finish : Nat}

/-- The window's answer to a moment on its clock, day and hours apart. -/
theorem holds_iff (hstart : minutesOf? w.startTime = some start)
    (hfinish : minutesOf? w.endTime = some finish) : w.holds m = true ↔
      (w.allowedDays = [] ∨ (m.weekday : Int) ∈ w.allowedDays) ∧
        spans start finish m.minuteOfDay = true := by
  unfold holds
  rw [hstart, hfinish, Bool.and_eq_true, Bool.or_eq_true, List.isEmpty_iff, List.contains_iff_mem]

/-- **Whether a moment is within the hours** is one question on the circle of a day, as long as no
day of the week stands against it: how many minutes it lies behind the start, on the clock of the
window's zone. The answer is the same for all moments of the same instant, those without an offset
being universal time. -/
theorem within_hours_iff (henabled : w.enabled = true)
    (hstart : minutesOf? w.startTime = some start) (hfinish : minutesOf? w.endTime = some finish)
    (hne : start ≠ finish) (hzone : zoneOr default w.timezone = .ok zone)
    (hsteady : zone.IsSteady offset) (hm : m.IsInner)
    (hdays : w.allowedDays = [] ∨
      start < finish ∧ ((m.seenAt offset).weekday : Int) ∈ w.allowedDays) :
    allows default (some w) m = .ok (decide
        ((((m.seenAt offset).minuteOfDay : Int) - start) % 1440 ≤
          ((finish : Int) - start) % 1440)) ∧
      ∀ m' : Moment, m'.assumeUtc.instant? = m.assumeUtc.instant? →
        allows default (some w) m' = allows default (some w) m := by
  constructor
  · have hholds : w.holds (m.seenAt offset) = true ↔
        spans start finish (m.seenAt offset).minuteOfDay = true := by
      rw [holds_iff hstart hfinish]
      exact and_iff_right (hdays.imp_right And.right)
    rw [allows_steady henabled hzone hsteady hm, Except.ok.injEq, Bool.eq_iff_iff,
      decide_eq_true_iff, hholds]
    exact spans_iff (minutesOf?_lt hstart) (minutesOf?_lt hfinish)
      (m.seenAt offset).minuteOfDay_lt hne
  · intro m' h
    rw [Moment.instant?_assumeUtc, Moment.instant?_assumeUtc, Option.some.injEq] at h
    exact allows_of_instant default (some w) h

end SendWindow

/-! ### A window over midnight on a January night -/

namespace Sample

/-- Universal time as a zone. -/
def universal : Zone := ⟨0, [], .steady 0⟩

theorem universal_isSteady : universal.IsSteady 0 := Zone.isSteady_of_tail rfl rfl

theorem zoneOr_universal : zoneOr homeZone (some "UTC") = .ok universal := by decide +kernel

/-- The hours from ten in the evening to six in the morning, on some days of the week. -/
def nights (days : List Int) : SendWindow := ⟨true, "22:00", "06:00", days, some "UTC"⟩

theorem nights_start (days : List Int) : minutesOf? (nights days).startTime = some 1320 := by
  show minutesOf? "22:00" = some 1320
  rfl

theorem nights_end (days : List Int) : minutesOf? (nights days).endTime = some 360 := by
  show minutesOf? "06:00" = some 360
  rfl

/-- Half past midnight on a day in January 2024, on a clock that does not know its offset. -/
def halfPastMidnight (d : Nat) : Moment := ⟨dayOf ⟨2024, 1, d⟩ * day + 30 * minute, none⟩

theorem halfPastMidnight_isInner {d : Nat} (h : d = 5 ∨ d = 6) : (halfPastMidnight d).IsInner := by
  rcases h with rfl | rfl <;> exact ⟨⟨by decide, fun o ho => by cases ho⟩, by decide, by decide⟩

end Sample

/-- Half past midnight is within the hours of the night, also where it is written on a clock two
hours ahead, as half past two. -/
theorem within_hours_iff_at_night :
    SendWindow.allows homeZone (some (Sample.nights [])) (Sample.halfPastMidnight 6) = .ok true ∧
      SendWindow.allows homeZone (some (Sample.nights []))
        ⟨dayOf ⟨2024, 1, 6⟩ * day + 150 * minute, some (120 * minute)⟩ = .ok true := by
  have hinner := Sample.halfPastMidnight_isInner (Or.inr rfl)
  obtain ⟨hallows, hsame⟩ := SendWindow.within_hours_iff rfl (Sample.nights_start [])
    (Sample.nights_end []) (by decide) Sample.zoneOr_universal Sample.universal_isSteady hinner
    (Or.inl rfl)
  have hyes : SendWindow.allows homeZone (some (Sample.nights [])) (Sample.halfPastMidnight 6) =
      .ok true := hallows.trans (congrArg Except.ok (by decide))
  exact ⟨hyes, (hsame _ (by decide)).trans hyes⟩

end Workflow
end Cadence
