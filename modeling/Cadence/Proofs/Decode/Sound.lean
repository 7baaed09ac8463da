/-
# What is read is a moment

Whatever document a moment is read from, it is one that a clock can show, and its offset, if it has
one, is a whole number of minutes within a day (`moment_spec`). A moment that was read can therefore
be written and read again.

Key theorems: `dateAtStart_spec`, `signedOffset?_spec`, `Count.reading_spec`, `moment_spec`.
-/
import Cadence.Proofs.Checks
import Cadence.Proofs.Decode.Moment
import Cadence.Proofs.Time.Order

namespace Cadence
namespace Decode

open Time

/-- A number in digits is below the power of ten that has as many zeros. -/
theorem digitsValue?_lt {cs : List Char} {n : Nat} (h : digitsValue? cs = some n) :
    n < 10 ^ cs.length := by
  unfold digitsValue? at h
  split at h
  · cases h
  · rename_i hdigits
    simp only [Bool.or_eq_true, Bool.not_eq_true', not_or, Bool.not_eq_true,
      Bool.not_eq_false, List.all_eq_true] at hdigits
    have hbound := (numberFrom_bounds hdigits.2 0).2
    rw [← Option.some.inj h]
    simpa [numberFrom] using hbound

/-- The date at the start of a text is one, unless its year is 0. -/
theorem dateAtStart_spec {cs rest : List Char} {d : Date} (h : dateAtStart cs = .ok (d, rest))
    (hyear : d.year ≠ 0) : d.isValid = true := by
  unfold dateAtStart at h
  simp only [bind, Except.bind, pure, Except.pure, throw, throwThe, MonadExceptOf.throw] at h
  split at h
  · cases h
  · cases hy : digitsValue? (cs.take 4) with
    | none =>
      simp only [hy, Option.elim_none] at h
      cases h
    | some year =>
      have hbound := digitsValue?_lt hy
      have hfour : (cs.take 4).length ≤ 4 := List.length_take_le 4 cs
      have hmost : 10 ^ (cs.take 4).length ≤ 10 ^ 4 := Nat.pow_le_pow_right (by decide) hfour
      simp only [hy, Option.elim_some, Except.pure] at h
      split at h
      · cases h
      · cases hm : digitsValue? ((cs.drop 5).take 2) with
        | none =>
          simp only [hm, Option.elim_none] at h
          cases h
        | some month =>
          simp only [hm, Option.elim_some, Except.pure] at h
          split at h
          · cases h
          · cases hd : digitsValue? ((cs.drop 8).take 2) with
            | none =>
              simp only [hd, Option.elim_none] at h
              cases h
            | some dayNumber =>
              simp only [hd, Option.elim_some, Except.pure] at h
              split at h
              · cases h
              · rename_i hmonth
                split at h
                · cases h
                · rename_i hday
                  cases h
                  simp only [Bool.or_eq_true, decide_eq_true_eq, not_or, Nat.not_lt] at hmonth hday
                  simp only [Date.isValid, Bool.and_eq_true, decide_eq_true_eq]
                  dsimp only at hyear
                  omega

/-- An offset in hours and minutes is within a day and a whole number of minutes. -/
theorem signedOffset?_spec {negative : Bool} {cs : List Char} {o : Int}
    (h : signedOffset? negative cs = some o) : o.natAbs < 86400000000 ∧ o % 60000000 = 0 := by
  have hminute : minute = 60000000 := rfl
  unfold signedOffset? at h
  obtain ⟨⟨hours, rest⟩, -, h⟩ := Option.bind_eq_some_iff.1 h
  obtain ⟨⟨minutes, rest'⟩, -, h⟩ := Option.bind_eq_some_iff.1 h
  dsimp only at h
  split at h
  · cases h
  · rename_i hsmall
    simp only [Bool.or_eq_true, decide_eq_true_eq, not_or, Nat.not_le] at hsmall
    rw [← Option.some.inj h, hminute]
    cases negative
    · simp only [Bool.false_eq_true, if_false]
      omega
    · simp only [if_true]
      omega

theorem offsetAtEnd?_spec {cs : List Char} {o : Option Int} (h : offsetAtEnd? cs = some o) :
    ∀ offset ∈ o, offset.natAbs < 86400000000 ∧ offset % 60000000 = 0 := by
  have hsigned : ∀ {negative : Bool} {cs : List Char},
      (signedOffset? negative cs).map some = some o →
        ∀ offset ∈ o, offset.natAbs < 86400000000 ∧ offset % 60000000 = 0 := by
    intro negative cs h
    obtain ⟨o', ho', rfl⟩ := Option.map_eq_some_iff.1 h
    intro offset hoffset
    rw [← Option.some.inj hoffset]
    exact signedOffset?_spec ho'
  unfold offsetAtEnd? at h
  split at h
  · cases h
    exact fun _ ho => by cases ho
  · cases h
    exact fun _ ho => Option.some.inj ho ▸ by decide
  · cases h
    exact fun _ ho => Option.some.inj ho ▸ by decide
  · exact hsigned h
  · exact hsigned h
  · split at h
    · exact hsigned h
    · cases h
  · cases h

/-- A date and a time of day show a reading of a clock. -/
theorem shows_ofParts {d : Date} {t : TimeOfDay} (hd : d.isValid = true) (ht : t.isValid = true)
    (offset : Option Int) : Moment.shows (Moment.ofParts d t offset).reading = true := by
  have hend : endOfTime = 3652059 * 86400000000 := rfl
  have hlt := dayOf_lt hd
  simp only [TimeOfDay.isValid, Bool.and_eq_true, decide_eq_true_eq] at ht
  have hreading : (Moment.ofParts d t offset).reading = dayOf d * 86400000000 +
      (((t.hour * 60 + t.minute) * 60 + t.second) * 1000000 + t.micro) := rfl
  unfold Moment.shows
  rw [hreading, hend, Bool.and_eq_true, decide_eq_true_eq, decide_eq_true_eq]
  omega

/-- What is written with a valid time of day and an offset in whole minutes is such a moment, unless
it is written in the year 0. -/
theorem Written.moment_spec {w : Written} {cs rest : List Char} {m : Moment}
    (hdate : dateAtStart cs = .ok (w.date, rest)) (htime : w.time.isValid = true)
    (hoffset : ∀ o ∈ w.offset, o.natAbs < 86400000000 ∧ o % 60000000 = 0)
    (h : w.moment = .ok m) : m.IsValid ∧ WholeMinutes m := by
  unfold Written.moment at h
  split at h
  · cases h
  · rename_i hyear
    rw [← Checked.ok.inj h]
    exact ⟨⟨shows_ofParts (dateAtStart_spec hdate hyear) htime w.offset,
      fun o ho => (hoffset o ho).1⟩, fun o ho => (hoffset o ho).2⟩

theorem momentOfText?_spec {cs : List Char} {w : Written} {m : Moment}
    (hw : momentOfText? cs = some w) (h : w.moment = .ok m) : m.IsValid ∧ WholeMinutes m := by
  unfold momentOfText? at hw
  obtain ⟨⟨date, rest⟩, hdate, hw⟩ := Option.bind_eq_some_iff.1 hw
  have hdate' : dateAtStart cs = .ok (date, rest) := by
    cases hstart : dateAtStart cs with
    | error e =>
      rw [hstart] at hdate
      cases hdate
    | ok p =>
      rw [hstart] at hdate
      rw [Option.some.inj hdate]
  dsimp only at hw
  split at hw
  · split at hw
    · cases hw
    · obtain ⟨hours, -, hw⟩ := Option.bind_eq_some_iff.1 hw
      split at hw
      · obtain ⟨minutes, -, hw⟩ := Option.bind_eq_some_iff.1 hw
        obtain ⟨seconds, -, hw⟩ := Option.bind_eq_some_iff.1 hw
        obtain ⟨offset, hoffset, hw⟩ := Option.bind_eq_some_iff.1 hw
        split at hw
        · rename_i htime
          cases hw
          exact Written.moment_spec hdate' htime (offsetAtEnd?_spec hoffset) h
        · cases hw
      · cases hw
  · cases hw

/-- A count is read only up to the last moment that there is. -/
theorem Count.reading_spec {c : Count} {reading : Int} (h : c.reading = .ok reading) :
    reading < endOfTime := by
  unfold Count.reading at h
  obtain ⟨micros, -, h⟩ := bind_eq_ok.1 h
  simp only [bind, Except.bind, pure, Except.pure, throw, throwThe, MonadExceptOf.throw] at h
  split at h
  · cases h
  · rename_i hend
    split at h
    · cases h
    · rw [← Except.ok.inj h]
      omega

theorem momentOfReading_spec {c : Count} {reading : Int} {m : Moment}
    (hc : c.reading = .ok reading) (h : momentOfReading reading = .ok m) :
    m.IsValid ∧ WholeMinutes m := by
  have hlt := Count.reading_spec hc
  unfold momentOfReading at h
  split at h
  · cases h
  · rw [← Checked.ok.inj h]
    refine ⟨⟨?_, fun o ho => Option.some.inj ho ▸ by decide⟩,
      fun o ho => Option.some.inj ho ▸ by decide⟩
    simp only [Moment.shows, Bool.and_eq_true, decide_eq_true_eq]
    omega

theorem Count.moment_spec {c : Count} {m : Moment} (h : c.moment = .ok m) :
    m.IsValid ∧ WholeMinutes m := by
  unfold Count.moment at h
  split at h
  · rename_i hc
    exact momentOfReading_spec hc h
  · cases h

theorem dateOfString_spec {cs : List Char} {m : Moment} (h : dateOfString cs = .ok m) :
    m.IsValid ∧ WholeMinutes m := by
  unfold dateOfString at h
  split at h
  · rename_i hdate
    exact Written.moment_spec hdate rfl (fun _ ho => by cases ho) h
  · rename_i hcount _
    obtain ⟨c, -, hc⟩ := Option.map_eq_some_iff.1 hcount
    exact momentOfReading_spec hc h
  · cases h
  · cases h
  · cases h

/-- **What is read as a moment is one that a clock can show**, with an offset of whole minutes if it
has one. -/
theorem moment_spec {j : Json} {m : Moment} (h : moment j = .ok m) :
    m.IsValid ∧ WholeMinutes m := by
  cases j with
  | str s =>
    have hstring : momentOfString s = .ok m := h
    unfold momentOfString at hstring
    dsimp only at hstring
    split at hstring
    · rename_i hw
      exact momentOfText?_spec hw hstring
    · rename_i hcount
      obtain ⟨c, -, hc⟩ := Option.map_eq_some_iff.1 hcount
      exact momentOfReading_spec hc hstring
    · exact dateOfString_spec hstring
  | int i =>
    have hcount : (if (Binary64.ofInt i).isFinite then (Count.whole i).moment
      else Checked.fail .notMoment) = .ok m := h
    split at hcount
    · exact Count.moment_spec hcount
    · cases hcount
  | float x => exact Count.moment_spec h
  | null => cases h
  | bool b => cases h
  | arr items => cases h
  | obj fields => cases h

end Decode
end Cadence
