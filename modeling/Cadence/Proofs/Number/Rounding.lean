/-
# How far rounding goes

`Binary64.ofRatio` gives a value that lies beyond a fraction by at most one part in `2 ^ 53` of it,
if the fraction is neither too large nor too small for the format (`ofRatio_spec`). Values are
compared as rational numbers: `magnitude` is that of a mantissa and an exponent.

The exponent is found by comparing logarithms, which are one too large at most; what comes out is that
of the power of two below the fraction (`ratioExponent_eq`).

Key definitions: `Binary64.magnitude`, `Binary64.Near`, `Binary64.mantissaAt`.
Key theorems: `ratioExponent_eq`, `mantissaAt_near`, `ofRatio_magnitude`, `ofRatio_spec`, `mul_spec`.
-/
import Cadence.Number.Binary64
import Mathlib.Algebra.Order.Field.Power
import Mathlib.Data.Rat.Cast.Order
import Mathlib.Tactic.FieldSimp
import Mathlib.Tactic.Linarith
import Mathlib.Tactic.NormNum
import Mathlib.Tactic.Positivity
import Mathlib.Tactic.Ring

namespace Cadence

/-- Rounding to an integer adds at most a half, and does not pass an integer below. -/
theorem divRoundEven_spec (num : Nat) {den : Nat} (hd : 0 < den) :
    num / den ≤ divRoundEven num den ∧
      (divRoundEven num den : ℚ) ≤ (num : ℚ) / den + 1 / 2 := by
  have hdiv := Nat.div_add_mod num den
  have hlt := Nat.mod_lt num hd
  have hbound : 2 * (divRoundEven num den * den) ≤ 2 * num + den := by
    unfold divRoundEven
    generalize num / den = q at hdiv ⊢
    generalize num % den = r at hdiv hlt ⊢
    dsimp only
    split_ifs <;> nlinarith
  refine ⟨?_, ?_⟩
  · unfold divRoundEven
    dsimp only
    split_ifs <;> omega
  · have hd' : (0 : ℚ) < den := by exact_mod_cast hd
    have hbound' : 2 * ((divRoundEven num den : ℚ) * den) ≤ 2 * num + den := by
      exact_mod_cast hbound
    have hmul : (divRoundEven num den : ℚ) ≤ ((num : ℚ) + den / 2) / den := by
      rw [le_div_iff₀ hd']
      linarith
    calc (divRoundEven num den : ℚ) ≤ ((num : ℚ) + den / 2) / den := hmul
      _ = (num : ℚ) / den + 1 / 2 := by field_simp

namespace Binary64

/-- The value of a mantissa and an exponent. -/
def magnitude (mantissa : Nat) (exponent : Int) : ℚ := mantissa * (2 : ℚ) ^ exponent

theorem magnitude_mul (m m' : Nat) (e e' : Int) :
    magnitude (m * m') (e + e') = magnitude m e * magnitude m' e' := by
  unfold magnitude
  rw [zpow_add₀ (by norm_num)]
  push_cast
  ring

/-- The fraction of a value is the value. -/
theorem ratio_spec (m : Nat) (e : Int) :
    0 < (ratio m e).2 ∧ ((ratio m e).1 : ℚ) / (ratio m e).2 = magnitude m e := by
  unfold ratio magnitude
  by_cases he : 0 ≤ e
  · obtain ⟨k, rfl⟩ := Int.eq_ofNat_of_zero_le he
    rw [if_pos he]
    refine ⟨Nat.one_pos, ?_⟩
    simp
  · obtain ⟨k, rfl⟩ : ∃ k : Nat, e = -(k : Int) := ⟨(-e).toNat, by omega⟩
    rw [if_neg he]
    refine ⟨by simp, ?_⟩
    simp [div_eq_mul_inv]

theorem scaleRatio_spec (num : Nat) {den : Nat} (hd : 0 < den) (e : Int) :
    0 < (scaleRatio num den e).2 ∧
      ((scaleRatio num den e).1 : ℚ) / (scaleRatio num den e).2 =
        (num : ℚ) / den / (2 : ℚ) ^ e := by
  unfold scaleRatio
  by_cases he : 0 ≤ e
  · obtain ⟨k, rfl⟩ := Int.eq_ofNat_of_zero_le he
    rw [if_pos he]
    refine ⟨Nat.mul_pos hd (Nat.pow_pos Nat.two_pos), ?_⟩
    simp [div_div]
  · obtain ⟨k, rfl⟩ : ∃ k : Nat, e = -(k : Int) := ⟨(-e).toNat, by omega⟩
    rw [if_neg he]
    refine ⟨hd, ?_⟩
    simp [div_eq_mul_inv]
    ring

/-- A number lies between powers of two. -/
theorem log2_bounds {n : Nat} (hn : 0 < n) :
    (2 : ℚ) ^ (Nat.log2 n : Int) ≤ n ∧ (n : ℚ) < (2 : ℚ) ^ ((Nat.log2 n : Int) + 1) := by
  refine ⟨?_, ?_⟩
  · rw [zpow_natCast]
    exact_mod_cast Nat.log2_self_le hn.ne'
  · have hlt := Nat.lt_log2_self (n := n)
    rw [show ((Nat.log2 n : Int) + 1) = ((Nat.log2 n + 1 : Nat) : Int) by push_cast; rfl,
      zpow_natCast]
    exact_mod_cast hlt

/-- **The exponent of a fraction** is that of the power of two below it, without 52 places. -/
theorem ratioExponent_eq {num den : Nat} (hn : 0 < num) (hd : 0 < den) :
    ∃ top : Int, ratioExponent num den = max (top - 52) minExponent ∧
      (2 : ℚ) ^ top ≤ (num : ℚ) / den ∧ (num : ℚ) / den < (2 : ℚ) ^ (top + 1) := by
  obtain ⟨hnlow, hnhigh⟩ := log2_bounds hn
  obtain ⟨hdlow, hdhigh⟩ := log2_bounds hd
  have hd' : (0 : ℚ) < den := by exact_mod_cast hd
  obtain ⟨guess, hguess⟩ :
      ∃ guess : Int, guess = (Nat.log2 num : Int) - (Nat.log2 den : Int) := ⟨_, rfl⟩
  have hlow : (2 : ℚ) ^ (guess - 1) ≤ (num : ℚ) / den := by
    rw [le_div_iff₀ hd']
    calc (2 : ℚ) ^ (guess - 1) * den
        ≤ (2 : ℚ) ^ (guess - 1) * (2 : ℚ) ^ ((Nat.log2 den : Int) + 1) := by gcongr
      _ = (2 : ℚ) ^ (Nat.log2 num : Int) := by
          rw [← zpow_add₀ (by norm_num), hguess]
          congr 1
          ring
      _ ≤ num := hnlow
  have hhigh : (num : ℚ) / den < (2 : ℚ) ^ (guess + 1) := by
    rw [div_lt_iff₀ hd']
    calc (num : ℚ) < (2 : ℚ) ^ ((Nat.log2 num : Int) + 1) := hnhigh
      _ = (2 : ℚ) ^ (guess + 1) * (2 : ℚ) ^ (Nat.log2 den : Int) := by
          rw [← zpow_add₀ (by norm_num), hguess]
          congr 1
          ring
      _ ≤ (2 : ℚ) ^ (guess + 1) * den := by gcongr
  obtain ⟨hpos, hscale⟩ := scaleRatio_spec num hd guess
  have hpow : (0 : ℚ) < (2 : ℚ) ^ guess := by positivity
  have hpos' : (0 : ℚ) < (scaleRatio num den guess).2 := by exact_mod_cast hpos
  have hlt : (scaleRatio num den guess).1 < (scaleRatio num den guess).2 ↔
      (num : ℚ) / den < (2 : ℚ) ^ guess := by
    rw [← div_lt_one hpow, ← hscale, div_lt_one hpos']
    exact_mod_cast Iff.rfl
  have hexp : ratioExponent num den = max ((if (scaleRatio num den guess).1 <
      (scaleRatio num den guess).2 then guess - 1 else guess) - 52) minExponent := by
    unfold ratioExponent
    rw [← hguess]
  by_cases hless : (num : ℚ) / den < (2 : ℚ) ^ guess
  · refine ⟨guess - 1, ?_, hlow, by rwa [sub_add_cancel]⟩
    rw [hexp, if_pos (hlt.2 hless)]
  · refine ⟨guess, ?_, not_lt.1 hless, hhigh⟩
    rw [hexp, if_neg fun h => hless (hlt.1 h)]

/-- A value with a sign that is near a fraction: it lies beyond it by one part in `2 ^ 53` at most,
and it is not less than half of it. -/
def Near (negative : Bool) (q : ℚ) (x : Binary64) : Prop :=
  ∃ m e, x = .finite negative m e ∧ q / 2 ≤ magnitude m e ∧
    magnitude m e ≤ q * (1 + (2 : ℚ) ^ (-53 : Int))

/-- The mantissa of a fraction for an exponent. -/
def mantissaAt (num den : Nat) (e : Int) : Nat :=
  divRoundEven (scaleRatio num den e).1 (scaleRatio num den e).2

/-- The mantissa for 52 places is near the fraction. -/
theorem mantissaAt_near {num den : Nat} (hd : 0 < den) {top : Int}
    (hlow : (2 : ℚ) ^ top ≤ (num : ℚ) / den) (hhigh : (num : ℚ) / den < (2 : ℚ) ^ (top + 1)) :
    (num : ℚ) / den / 2 ≤ magnitude (mantissaAt num den (top - 52)) (top - 52) ∧
      magnitude (mantissaAt num den (top - 52)) (top - 52) ≤
        (num : ℚ) / den * (1 + (2 : ℚ) ^ (-53 : Int)) := by
  obtain ⟨hpos, hscale⟩ := scaleRatio_spec num hd (top - 52)
  obtain ⟨hfloor, hround⟩ := divRoundEven_spec (scaleRatio num den (top - 52)).1 hpos
  rw [hscale] at hround
  change _ ≤ mantissaAt num den (top - 52) at hfloor
  change (mantissaAt num den (top - 52) : ℚ) ≤ _ at hround
  have hpow : (0 : ℚ) < (2 : ℚ) ^ (top - 52) := by positivity
  have hsplit : (2 : ℚ) ^ top = (2 : ℚ) ^ (52 : Nat) * (2 : ℚ) ^ (top - 52) := by
    rw [← zpow_natCast, ← zpow_add₀ (by norm_num)]
    congr 1
    omega
  have hscaled : (2 : ℚ) ^ (52 : Nat) ≤ (num : ℚ) / den / (2 : ℚ) ^ (top - 52) := by
    rw [le_div_iff₀ hpow, ← hsplit]
    exact hlow
  have hmlow : (2 : ℚ) ^ (52 : Nat) ≤ mantissaAt num den (top - 52) := by
    rw [← hscale, le_div_iff₀ (by exact_mod_cast hpos)] at hscaled
    have hnat : 2 ^ 52 ≤ mantissaAt num den (top - 52) :=
      le_trans ((Nat.le_div_iff_mul_le hpos).2 (by exact_mod_cast hscaled)) hfloor
    exact_mod_cast hnat
  unfold magnitude
  refine ⟨?_, ?_⟩
  · have hdouble : (2 : ℚ) ^ (top + 1) = (2 : ℚ) ^ top * 2 := by
      rw [zpow_add₀ (by norm_num), zpow_one]
    calc (num : ℚ) / den / 2 ≤ (2 : ℚ) ^ top := by
          rw [hdouble] at hhigh
          linarith
      _ = (2 : ℚ) ^ (52 : Nat) * (2 : ℚ) ^ (top - 52) := hsplit
      _ ≤ mantissaAt num den (top - 52) * (2 : ℚ) ^ (top - 52) := by gcongr
  · have hhalf : (1 : ℚ) / 2 ≤
        (num : ℚ) / den / (2 : ℚ) ^ (top - 52) * (2 : ℚ) ^ (-53 : Int) := by
      calc (1 : ℚ) / 2 = (2 : ℚ) ^ (52 : Nat) * (2 : ℚ) ^ (-53 : Int) := by norm_num
        _ ≤ _ := by gcongr
    calc (mantissaAt num den (top - 52) : ℚ) * (2 : ℚ) ^ (top - 52)
        ≤ ((num : ℚ) / den / (2 : ℚ) ^ (top - 52) * (1 + (2 : ℚ) ^ (-53 : Int))) *
            (2 : ℚ) ^ (top - 52) := by
          gcongr
          linarith
      _ = (num : ℚ) / den * (1 + (2 : ℚ) ^ (-53 : Int)) := by field_simp

/-- What a fraction is rounded to has its mantissa for 52 places, or it is the next power of two and
so is the mantissa. -/
theorem ofRatio_magnitude (negative : Bool) {num den : Nat} (hn : 0 < num) {top : Int}
    (he : ratioExponent num den = top - 52) (htop : top ≤ 1022) :
    ∃ m e, ofRatio negative num den = .finite negative m e ∧
      magnitude m e = magnitude (mantissaAt num den (top - 52)) (top - 52) := by
  have hmax : ¬ maxExponent < top - 52 ∧ ¬ maxExponent < top - 52 + 1 := by
    unfold maxExponent
    omega
  have hround : ofRatio negative num den = if mantissaAt num den (top - 52) = Nat.pow 2 53
      then .finite negative (Nat.pow 2 52) (top - 52 + 1)
      else .finite negative (mantissaAt num den (top - 52)) (top - 52) := by
    have hm : divRoundEven (scaleRatio num den (top - 52)).1 (scaleRatio num den (top - 52)).2 =
        mantissaAt num den (top - 52) := rfl
    unfold ofRatio
    rw [if_neg hn.ne']
    dsimp only
    rw [he, hm]
    by_cases hcarry : mantissaAt num den (top - 52) = Nat.pow 2 53
    · rw [if_pos hcarry, if_pos hcarry]
      exact if_neg hmax.2
    · rw [if_neg hcarry, if_neg hcarry]
      exact if_neg hmax.1
  rw [hround]
  by_cases hcarry : mantissaAt num den (top - 52) = Nat.pow 2 53
  · rw [if_pos hcarry]
    refine ⟨_, _, rfl, ?_⟩
    unfold magnitude
    rw [hcarry, zpow_add₀ (by norm_num)]
    push_cast
    norm_num
    ring
  · rw [if_neg hcarry]
    exact ⟨_, _, rfl, rfl⟩

/-- **Rounding goes to a value that is near**, if the fraction is not out of the format's range. -/
theorem ofRatio_spec (negative : Bool) {num den : Nat} (hd : 0 < den)
    (hlow : (2 : ℚ) ^ (-1022 : Int) ≤ (num : ℚ) / den)
    (hhigh : (num : ℚ) / den < (2 : ℚ) ^ (1023 : Int)) :
    Near negative ((num : ℚ) / den) (ofRatio negative num den) := by
  have hn : 0 < num := by
    rcases Nat.eq_zero_or_pos num with rfl | hn
    · have hpos : (0 : ℚ) < (2 : ℚ) ^ (-1022 : Int) := by positivity
      rw [Nat.cast_zero, zero_div] at hlow
      exact absurd hlow (not_le.2 hpos)
    · exact hn
  obtain ⟨top, hexp, htlow, hthigh⟩ := ratioExponent_eq hn hd
  have h2 : (1 : ℚ) < 2 := by norm_num
  -- the fraction is in the range of normal values
  have htop : -1022 ≤ top ∧ top ≤ 1022 := by
    have h1 := (zpow_lt_zpow_iff_right₀ h2).1 (hlow.trans_lt hthigh)
    have h3 := (zpow_lt_zpow_iff_right₀ h2).1 (htlow.trans_lt hhigh)
    omega
  have he : ratioExponent num den = top - 52 := by
    rw [hexp]
    unfold minExponent
    omega
  obtain ⟨m, e, hround, hsame⟩ := ofRatio_magnitude negative hn he htop.2
  have hnear := mantissaAt_near hd htlow hthigh
  rw [← hsame] at hnear
  exact ⟨m, e, hround, hnear⟩

/-- The product of two values is near the product of their magnitudes. -/
theorem mul_spec (m m' : Nat) (e e' : Int)
    (hlow : (2 : ℚ) ^ (-1022 : Int) ≤ magnitude m e * magnitude m' e')
    (hhigh : magnitude m e * magnitude m' e' < (2 : ℚ) ^ (1023 : Int)) :
    Near false (magnitude m e * magnitude m' e')
      ((Binary64.finite false m e).mul (.finite false m' e')) := by
  obtain ⟨hpos, hvalue⟩ := ratio_spec (m * m') (e + e')
  rw [magnitude_mul] at hvalue
  rw [← hvalue] at hlow hhigh ⊢
  exact ofRatio_spec false hpos hlow hhigh

end Binary64
end Cadence
