/-
# A timer can be set for every moment to come

A timer is set by the milliseconds until a moment, a binary number that two roundings have gone into,
without its fraction. It may come to more than there is until the moment, but not by a millisecond
(`millis_le`), and not at all below seventy years. So a timer that is set for a moment to come does
not run out of the clock: either the delay stays below a ceiling that is not too large, or the moment
is not the very end of time (`arm_of_later`).

Key definitions: `Delay.longCeiling`.
Key theorems: `Delay.ofMicros_spec`, `Delay.clamp_spec`, `Delay.millis_le`, `Timers.arm_of_later`.
-/
import Cadence.Proofs.Checks
import Cadence.Proofs.Number.Rounding
import Cadence.Proofs.Time.Iso
import Cadence.Timer.Timers
import Mathlib.Data.Nat.Cast.Order.Field

namespace Cadence

open Time Binary64

namespace Delay

/-! ### Milliseconds as binary numbers -/

theorem ofInt_thousand : Binary64.ofInt 1000 = .finite false (1000 * 2 ^ 43) (-43) := by
  decide +kernel

theorem magnitude_thousand : magnitude (1000 * 2 ^ 43) (-43) = 1000 := by
  unfold magnitude
  norm_num

/-- The milliseconds of a duration are rounded twice. -/
theorem ofMicros_spec {us : Nat} (h0 : 0 < us) (h1 : us < 2 ^ 59) :
    ∃ m e, ofMicros us = .finite false m e ∧
      magnitude m e ≤ (us : ℚ) / 1000 * (1 + (2 : ℚ) ^ (-53 : Int)) ^ 2 := by
  have hus : (1 : ℚ) ≤ us := by exact_mod_cast h0
  have hus' : (us : ℚ) < 2 ^ 59 := by exact_mod_cast h1
  have hsmall : (2 : ℚ) ^ (-1022 : Int) ≤ 1 / 1000000000 := by
    calc (2 : ℚ) ^ (-1022 : Int) ≤ (2 : ℚ) ^ (-30 : Int) :=
          zpow_le_zpow_right₀ (by norm_num) (by norm_num)
      _ ≤ 1 / 1000000000 := by norm_num
  have hlarge : (2 : ℚ) ^ (80 : Nat) ≤ (2 : ℚ) ^ (1023 : Int) := by
    rw [← zpow_natCast]
    exact zpow_le_zpow_right₀ (by norm_num) (by norm_num)
  have hfirst : Near false ((us : ℚ) / (1000000 : Nat)) (ofRatio false us 1000000) := by
    refine ofRatio_spec false (by norm_num) (hsmall.trans ?_) (lt_of_lt_of_le ?_ hlarge)
    · push_cast
      linarith
    · push_cast
      linarith
  obtain ⟨m, e, hx, hlow, hhigh⟩ := hfirst
  push_cast at hlow hhigh
  have hroom : (1 : ℚ) + (2 : ℚ) ^ (-53 : Int) ≤ 2 := by norm_num
  have hmag : magnitude m e ≤ (us : ℚ) / 1000000 * 2 := by
    refine hhigh.trans ?_
    gcongr
  have hsecond : Near false (magnitude m e * 1000)
      ((Binary64.finite false m e).mul (Binary64.ofInt 1000)) := by
    rw [ofInt_thousand, ← magnitude_thousand]
    refine mul_spec m _ e _ (hsmall.trans ?_) (lt_of_lt_of_le ?_ hlarge) <;>
      rw [magnitude_thousand] <;> linarith
  obtain ⟨m', e', hy, -, hhigh'⟩ := hsecond
  refine ⟨m', e', ?_, ?_⟩
  · unfold ofMicros
    rw [← hy, ← hx, Int.natAbs_natCast, decide_eq_false (by omega)]
  · calc magnitude m' e' ≤ magnitude m e * 1000 * (1 + (2 : ℚ) ^ (-53 : Int)) := hhigh'
      _ ≤ ((us : ℚ) / 1000000 * (1 + (2 : ℚ) ^ (-53 : Int))) * 1000 *
            (1 + (2 : ℚ) ^ (-53 : Int)) := by gcongr
      _ = (us : ℚ) / 1000 * (1 + (2 : ℚ) ^ (-53 : Int)) ^ 2 := by ring

/-! ### Delays between zero and a ceiling -/

theorem gtInt_finite {m : Nat} {e i : Int} :
    (Binary64.finite false m e).gtInt i = true ↔ (i : ℚ) < magnitude m e := by
  obtain ⟨hpos, hvalue⟩ := ratio_spec m e
  have hpos' : (0 : ℚ) < (ratio m e).2 := by exact_mod_cast hpos
  have hcompare : (Binary64.finite false m e).gtInt i = true ↔
      i * ((ratio m e).2 : Int) < ((ratio m e).1 : Int) := by
    simp [Binary64.gtInt, Binary64.compareInt, Binary64.signedRatio, compare_gt_iff_gt]
  rw [hcompare, ← hvalue, lt_div_iff₀ hpos']
  exact_mod_cast Iff.rfl

/-- A delay that is kept below a ceiling gets neither longer nor more than the ceiling. -/
theorem clamp_spec (m : Nat) (e ceiling : Int) : ∃ ms,
    clamp (.binary (.finite false m e)) (.whole ceiling) = .ok ms ∧ 0 ≤ ms ∧
      (ms : ℚ) ≤ magnitude m e ∧ ms ≤ max ceiling 0 := by
  have hnonneg : (0 : ℚ) ≤ magnitude m e := by
    unfold magnitude
    positivity
  have hzero : ((0 : Int) : ℚ) ≤ magnitude m e := by exact_mod_cast hnonneg
  unfold clamp
  by_cases hceiling : (Binary64.finite false m e).gtInt ceiling = true
  · have hless : (whole ceiling).less (.binary (.finite false m e)) = true := hceiling
    rw [if_pos hless]
    by_cases hpos : 0 < ceiling
    · have hpos' : (whole 0).less (whole ceiling) = true := decide_eq_true hpos
      simp only [hpos', if_true]
      exact ⟨ceiling, rfl, hpos.le, (gtInt_finite.1 hceiling).le, le_max_left _ _⟩
    · have hpos' : (whole 0).less (whole ceiling) = false := decide_eq_false hpos
      simp only [hpos', Bool.false_eq_true, if_false]
      exact ⟨0, rfl, le_rfl, hzero, le_max_right _ _⟩
  · have hless : ¬ (whole ceiling).less (.binary (.finite false m e)) = true := hceiling
    rw [if_neg hless]
    by_cases hpos : (Binary64.finite false m e).gtInt 0 = true
    · have hpos' : (whole 0).less (.binary (.finite false m e)) = true := hpos
      obtain ⟨hden, hvalue⟩ := ratio_spec m e
      have hfloor : (((ratio m e).1 / (ratio m e).2 : Nat) : ℚ) ≤ magnitude m e := by
        rw [← hvalue]
        exact Nat.cast_div_le
      simp only [hpos', if_true]
      refine ⟨((ratio m e).1 / (ratio m e).2 : Nat), rfl, Int.natCast_nonneg _, ?_, ?_⟩
      · exact_mod_cast hfloor
      · have hle : magnitude m e ≤ (ceiling : ℚ) := not_lt.1 fun h => hceiling (gtInt_finite.2 h)
        have hint : ((((ratio m e).1 / (ratio m e).2 : Nat) : Int) : ℚ) ≤ (ceiling : ℚ) := by
          rw [Int.cast_natCast]
          exact hfloor.trans hle
        exact (Int.cast_le.1 hint).trans (le_max_left _ _)
    · have hpos' : (whole 0).less (.binary (.finite false m e)) = false :=
        Bool.eq_false_iff.2 hpos
      simp only [hpos', Bool.false_eq_true, if_false]
      exact ⟨0, rfl, le_rfl, hzero, le_max_right _ _⟩

/-- A ceiling, in milliseconds, below which delays are not rounded to more than there is. -/
def longCeiling : Int := 2 ^ 41

/-- **How long a delay gets**: less than a millisecond more than there is until the moment, and not
more at all below a ceiling of seventy years. -/
theorem millis_le {us m : Nat} {e ms ceiling : Int} (h0 : 0 < us) (h1 : us < 2 ^ 59)
    (hms : (ms : ℚ) ≤ magnitude m e) (hceiling : ms ≤ max ceiling 0)
    (hm : magnitude m e ≤ (us : ℚ) / 1000 * (1 + (2 : ℚ) ^ (-53 : Int)) ^ 2) :
    ms * 1000 < us + 1000 ∧ (ceiling ≤ longCeiling → ms * 1000 ≤ us) := by
  have hus : (0 : ℚ) < us := by exact_mod_cast h0
  have hus' : (us : ℚ) < 2 ^ 59 := by exact_mod_cast h1
  have hsquare : (1 + (2 : ℚ) ^ (-53 : Int)) ^ 2 ≤ 1 + 1 / 2 ^ 51 := by norm_num
  have hle : (ms : ℚ) * 1000 ≤ us + us / 2 ^ 51 := by
    calc (ms : ℚ) * 1000 ≤ us / 1000 * (1 + (2 : ℚ) ^ (-53 : Int)) ^ 2 * 1000 := by
          gcongr
          exact hms.trans hm
      _ = us * (1 + (2 : ℚ) ^ (-53 : Int)) ^ 2 := by ring
      _ ≤ us * (1 + 1 / 2 ^ 51) := by gcongr
      _ = us + us / 2 ^ 51 := by ring
  refine ⟨?_, ?_⟩
  · have hrest : (us : ℚ) / 2 ^ 51 < 256 := by
      rw [div_lt_iff₀ (by positivity)]
      exact hus'.trans_le (by norm_num)
    have hlt : (ms : ℚ) * 1000 < us + 1000 := by linarith
    exact_mod_cast hlt
  · intro hlong
    by_contra hmore
    have hmore' : (us : Int) + 1 ≤ ms * 1000 := by omega
    have hms' : ms ≤ 2 ^ 41 := by
      unfold longCeiling at hlong
      omega
    have hshort : us < 2 ^ 51 := by omega
    have hrest : (us : ℚ) / 2 ^ 51 < 1 := by
      rw [div_lt_one (by positivity)]
      exact_mod_cast hshort
    have hmore'' : (us : ℚ) + 1 ≤ ms * 1000 := by exact_mod_cast hmore'
    linarith

end Delay

namespace Timers

open Delay

/-- **A timer can be set for a moment to come**, on a clock in universal time, if the ceiling is not
too large or the moment not the end of time. -/
theorem arm_of_later {now due : Moment} (hnow : now.IsValid) (hdue : due.IsValid)
    (hdue0 : due.offset = some 0) (hlater : now.reading < due.reading) {ceiling : Int}
    (hroom : ceiling ≤ Delay.longCeiling ∨ due.reading + 1000 ≤ endOfTime) {clock : Moment}
    (hclock : clock.assumeUtc.instant? = some now.reading) (t : Timers) (id : String) :
    ∃ ms t', t.arm now ceiling id (.until_ due clock) = .ok (ms, t') := by
  have hshown := hnow.shown
  have hshown' := hdue.shown
  simp only [Moment.shows, Bool.and_eq_true, decide_eq_true_eq] at hshown hshown'
  obtain ⟨us, hus⟩ : ∃ us : Nat, due.reading - now.reading = us := ⟨_, (Int.toNat_of_nonneg
    (by omega)).symm⟩
  have hlt : us < 2 ^ 59 := by
    have hend : endOfTime < 2 ^ 59 := by decide
    have hint : (us : Int) < 2 ^ 59 := by omega
    exact_mod_cast hint
  have huntil : Delay.until_ due clock = .binary (Delay.ofMicros us) := by
    obtain ⟨o, ho, hinstant⟩ := Option.map_eq_some_iff.1 hclock
    have hboth : clock.assumeUtc.until? due.assumeUtc = some (us : Int) := by
      unfold Moment.until?
      rw [ho, show due.assumeUtc = due from assumeUtc_of_known (by rw [hdue0]; rfl), hdue0]
      refine congrArg some ?_
      omega
    unfold Delay.until_
    rw [hboth]
  obtain ⟨m, e, hmillis, hmag⟩ := ofMicros_spec (by omega) hlt
  obtain ⟨ms, hclamp, hms0, hms, hmax⟩ := clamp_spec m e ceiling
  obtain ⟨hless, hlong⟩ := millis_le (by omega) hlt hms hmax hmag
  have hadd : ∃ at_, now.add (ms * 1000) = some at_ := by
    unfold Moment.add
    refine ⟨_, if_pos ?_⟩
    simp only [Moment.shows, Bool.and_eq_true, decide_eq_true_eq]
    rcases hroom with hceiling | hend
    · have := hlong hceiling
      omega
    · omega
  obtain ⟨at_, hadd⟩ := hadd
  unfold arm
  rw [huntil, hmillis, hclamp]
  refine ⟨ms, ⟨true, (t.remove id).jobs ++ [⟨id, at_⟩]⟩, bind_eq_ok.2 ⟨ms, rfl, ?_⟩⟩
  rw [hadd]
  rfl

end Timers
end Cadence
