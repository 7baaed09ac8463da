/-
# Texts of moments in order

In universal time a moment is before another exactly if its text is (`iso_lt`). A number of a fixed
width comes before a greater one whatever follows the two (`padded_lt`), a day before another is
before it by year, month and day (`dateText_lt`), and a whole second comes before its fractions
because the sign of an offset comes before a point. Texts that are in order therefore tell instants
that are (`reading_le_of_iso_le`).

What is read from a text is a moment that a clock can show (`ofIso?_isValid`), in whichever of the
formats it was written.

Key theorems: `padded_lt`, `dateText_lt`, `iso_lt`, `reading_le_of_iso_le`, `ofIso?_isValid`.
-/
import Cadence.Proofs.Time.Iso
import Mathlib.Tactic.Ring

namespace Cadence
namespace Time

/-! ### Digits -/

theorem digit_bounds {d : Char} (h : d.isDigit = true) : 48 ≤ d.toNat ∧ d.toNat ≤ 57 := by
  simp only [Char.isDigit, Bool.and_eq_true, decide_eq_true_eq] at h
  have hlow := UInt32.le_iff_toNat_le.1 h.1
  have hhigh := UInt32.le_iff_toNat_le.1 h.2
  exact ⟨by simpa using hlow, by simpa using hhigh⟩

theorem char_lt_iff {d e : Char} : d < e ↔ d.toNat < e.toNat := by
  rw [Char.lt_def, UInt32.lt_iff_toNat_lt]
  rfl

/-- The number that digits write behind a number. -/
def numberFrom (start : Nat) (ds : List Char) : Nat :=
  ds.foldl (fun v d => v * 10 + (d.toNat - 48)) start

/-- Behind a number, digits can only write what starts with it. -/
theorem numberFrom_bounds : ∀ {ds : List Char} (_ : ∀ d ∈ ds, d.isDigit = true) (start : Nat),
    start * 10 ^ ds.length ≤ numberFrom start ds ∧
      numberFrom start ds < (start + 1) * 10 ^ ds.length
  | [], _, start => by simp [numberFrom]
  | d :: ds, hds, start => by
    have hd := digit_bounds (hds d List.mem_cons_self)
    obtain ⟨hlow, hhigh⟩ := numberFrom_bounds (fun d hd => hds d (List.mem_cons_of_mem _ hd))
      (start * 10 + (d.toNat - 48))
    have hnumber : numberFrom start (d :: ds) = numberFrom (start * 10 + (d.toNat - 48)) ds := rfl
    rw [hnumber, List.length_cons, Nat.pow_succ]
    constructor
    · calc start * (10 ^ ds.length * 10) = start * 10 * 10 ^ ds.length := by ring
        _ ≤ (start * 10 + (d.toNat - 48)) * 10 ^ ds.length :=
            Nat.mul_le_mul_right _ (Nat.le_add_right _ _)
        _ ≤ _ := hlow
    · calc numberFrom (start * 10 + (d.toNat - 48)) ds
          < (start * 10 + (d.toNat - 48) + 1) * 10 ^ ds.length := hhigh
        _ ≤ (start * 10 + 10) * 10 ^ ds.length := Nat.mul_le_mul_right _ (by omega)
        _ = (start + 1) * (10 ^ ds.length * 10) := by ring

/-- **Digits are in the order of the numbers they write**, if there are as many. -/
theorem digits_lt : ∀ {ds es : List Char} (start : Nat), (∀ d ∈ ds, d.isDigit = true) →
    (∀ e ∈ es, e.isDigit = true) → ds.length = es.length →
    numberFrom start ds < numberFrom start es → ∀ xs ys : List Char, ds ++ xs < es ++ ys
  | [], [], start, _, _, _, hlt, _, _ => absurd hlt (Nat.lt_irrefl _)
  | d :: ds, e :: es, start, hds, hes, hlen, hlt, xs, ys => by
    have hd := digit_bounds (hds d List.mem_cons_self)
    have he := digit_bounds (hes e List.mem_cons_self)
    have hds' : ∀ d ∈ ds, d.isDigit = true := fun d hd => hds d (List.mem_cons_of_mem _ hd)
    have hes' : ∀ e ∈ es, e.isDigit = true := fun e he => hes e (List.mem_cons_of_mem _ he)
    have hlen' : ds.length = es.length := Nat.succ.inj hlen
    rw [List.cons_append, List.cons_append, List.cons_lt_cons_iff, char_lt_iff]
    rcases Nat.lt_trichotomy d.toNat e.toNat with hless | hsame | hmore
    · exact Or.inl hless
    · have hchar : d = e := Char.toNat_inj.1 hsame
      subst hchar
      exact Or.inr ⟨rfl, digits_lt _ hds' hes' hlen' hlt xs ys⟩
    · exfalso
      have hleft := (numberFrom_bounds hds' (start * 10 + (d.toNat - 48))).1
      have hright := (numberFrom_bounds hes' (start * 10 + (e.toNat - 48))).2
      have hsteps : (start * 10 + (e.toNat - 48) + 1) * 10 ^ es.length ≤
          (start * 10 + (d.toNat - 48)) * 10 ^ ds.length := by
        rw [hlen']
        exact Nat.mul_le_mul_right _ (by omega)
      have hlt' : numberFrom (start * 10 + (d.toNat - 48)) ds <
          numberFrom (start * 10 + (e.toNat - 48)) es := hlt
      omega

/-- A number of a fixed width comes before a greater one, whatever follows. -/
theorem padded_lt {width n m : Nat} (hw : 0 < width) (hm : m < Nat.pow 10 width) (h : n < m)
    (xs ys : List Char) : padded width n ++ xs < padded width m ++ ys := by
  have hn : n < Nat.pow 10 width := Nat.lt_trans h hm
  refine digits_lt 0 (padded_digits width n) (padded_digits width m) ?_ ?_ xs ys
  · rw [padded_length hn hw, padded_length hm hw]
  · unfold numberFrom
    rwa [foldl_padded, foldl_padded]

/-- Numbers of a fixed width and what follows them are in order by the numbers first. -/
theorem padded_lt_or {width n m : Nat} (hw : 0 < width) (hm : m < Nat.pow 10 width)
    {xs ys : List Char} (h : n < m ∨ n = m ∧ xs < ys) :
    padded width n ++ xs < padded width m ++ ys := by
  rcases h with hlt | ⟨rfl, hrest⟩
  · exact padded_lt hw hm hlt xs ys
  · exact List.append_left_lt hrest

/-! ### Dates -/

theorem daysBeforeYear_succ {year : Nat} (h : 1 ≤ year) :
    daysBeforeYear (year + 1) = daysBeforeYear year + daysInYear year := by
  obtain ⟨y, rfl⟩ : ∃ y, year = y + 1 := ⟨year - 1, by omega⟩
  have hstep : ∀ n, 0 < n → (y + 1) / n = y / n + if (y + 1) % n = 0 then 1 else 0 := by
    intro n hn
    rw [Nat.succ_div]
    simp only [Nat.dvd_iff_mod_eq_zero]
  have h400 : (y + 1) % 400 = 0 → (y + 1) % 100 = 0 := by omega
  have h100 : (y + 1) % 100 = 0 → (y + 1) % 4 = 0 := by omega
  have hle : y / 100 ≤ y / 4 := Nat.div_le_div_left (by decide) (by decide)
  unfold daysBeforeYear daysInYear isLeap
  dsimp only
  rw [Nat.add_sub_cancel, Nat.add_sub_cancel, hstep 4 (by decide), hstep 100 (by decide),
    hstep 400 (by decide)]
  by_cases hcenturies : (y + 1) % 400 = 0
  · simp [hcenturies, h400 hcenturies, h100 (h400 hcenturies)]
    omega
  by_cases hcentury : (y + 1) % 100 = 0
  · simp [hcenturies, hcentury, h100 hcentury]
    omega
  by_cases hfour : (y + 1) % 4 = 0
  · simp [hcenturies, hcentury, hfour]
    omega
  · simp [hcenturies, hcentury, hfour]
    omega

theorem daysBeforeYear_le {a b : Nat} (h1 : 1 ≤ a) (h : a ≤ b) :
    daysBeforeYear a ≤ daysBeforeYear b := by
  induction h with
  | refl => exact Nat.le_refl _
  | step hle ih =>
    have h1' : 1 ≤ _ := Nat.le_trans h1 hle
    rw [daysBeforeYear_succ h1']
    exact Nat.le_trans ih (Nat.le_add_right _ _)

theorem daysBeforeMonth_le (year : Nat) {a b : Nat} (h1 : 1 ≤ a) (h : a ≤ b) :
    daysBeforeMonth year a ≤ daysBeforeMonth year b := by
  induction h with
  | refl => exact Nat.le_refl _
  | step hle ih =>
    rw [daysBeforeMonth_succ year (Nat.le_trans h1 hle)]
    exact Nat.le_trans ih (Nat.le_add_right _ _)

/-- A date lies in its month, and so before the end of its year. -/
theorem dayOf_bounds {d : Date} (h : d.isValid = true) :
    daysBeforeYear d.year + daysBeforeMonth d.year d.month ≤ dayOf d ∧
      dayOf d < daysBeforeYear d.year + daysBeforeMonth d.year (d.month + 1) ∧
      dayOf d < daysBeforeYear (d.year + 1) := by
  simp only [Date.isValid, Bool.and_eq_true, decide_eq_true_eq] at h
  obtain ⟨⟨⟨⟨⟨hy, -⟩, hm⟩, hm'⟩, hd⟩, hd'⟩ := h
  have hmonth := daysBeforeMonth_succ d.year hm
  have hend := daysBeforeMonth_le d.year (a := d.month + 1) (b := 13) (by omega) (by omega)
  rw [daysBeforeMonth_thirteen] at hend
  rw [daysBeforeYear_succ hy]
  unfold dayOf
  omega

/-- A day before another is before it by year, month and day of the month. -/
theorem date_lt {d e : Date} (hd : d.isValid = true) (he : e.isValid = true)
    (h : dayOf d < dayOf e) : d.year < e.year ∨ d.year = e.year ∧ (d.month < e.month ∨
      d.month = e.month ∧ d.day < e.day) := by
  obtain ⟨hdlow, -, hdyear⟩ := dayOf_bounds hd
  obtain ⟨helow, hemonth, heyear⟩ := dayOf_bounds he
  simp only [Date.isValid, Bool.and_eq_true, decide_eq_true_eq] at hd he
  rcases Nat.lt_trichotomy d.year e.year with hlt | hyear | hgt
  · exact Or.inl hlt
  · refine Or.inr ⟨hyear, ?_⟩
    rcases Nat.lt_trichotomy d.month e.month with hlt | hmonth | hgt
    · exact Or.inl hlt
    · refine Or.inr ⟨hmonth, ?_⟩
      unfold dayOf at h
      rw [hyear, hmonth] at h
      omega
    · have hle := daysBeforeMonth_le e.year (a := e.month + 1) (b := d.month) (by omega) (by omega)
      rw [hyear] at hdlow
      omega
  · have hle := daysBeforeYear_le (a := e.year + 1) (b := d.year) (by omega) (by omega)
    omega

theorem dateText_lt {d e : Date} (hd : d.isValid = true) (he : e.isValid = true)
    (h : dayOf d < dayOf e) (xs ys : List Char) : dateText d ++ xs < dateText e ++ ys := by
  have hlt := date_lt hd he h
  simp only [dateText, List.append_assoc, List.cons_append]
  refine padded_lt_or (by decide) (Date.year_lt he) (hlt.imp_right (And.imp_right fun hlt => ?_))
  refine List.cons_lt_cons_iff.2 (Or.inr ⟨rfl, ?_⟩)
  refine padded_lt_or (by decide) (Date.month_lt he) (hlt.imp_right (And.imp_right fun hlt => ?_))
  exact List.cons_lt_cons_iff.2 (Or.inr ⟨rfl, padded_lt (by decide) (Date.day_lt he) hlt xs ys⟩)

/-! ### Moments in universal time -/

/-- Times of a day are in order, if what follows them comes before a point. -/
theorem clockText_lt_of_lt {a b : Nat} (hb : b < 86400000000) (h : a < b) {c : Char}
    (hc : c < '.') (rest : List Char) :
    clockText a true ++ c :: rest < clockText b true ++ c :: rest := by
  simp only [clockText, Bool.true_or, if_true, List.append_assoc, List.cons_append]
  refine padded_lt_or (by decide) (show _ < 100 by omega) ?_
  by_cases hhour : a / 1000000 / 3600 < b / 1000000 / 3600
  · exact Or.inl hhour
  refine Or.inr ⟨by omega, List.cons_lt_cons_iff.2 (Or.inr ⟨rfl, ?_⟩)⟩
  refine padded_lt_or (by decide) (show _ < 100 by omega) ?_
  by_cases hminute : a / 1000000 / 60 % 60 < b / 1000000 / 60 % 60
  · exact Or.inl hminute
  refine Or.inr ⟨by omega, List.cons_lt_cons_iff.2 (Or.inr ⟨rfl, ?_⟩)⟩
  refine padded_lt_or (by decide) (show _ < 100 by omega) ?_
  by_cases hsecond : a / 1000000 % 60 < b / 1000000 % 60
  · exact Or.inl hsecond
  refine Or.inr ⟨by omega, ?_⟩
  have hmicro : a % 1000000 < b % 1000000 := by omega
  rw [if_neg (show ¬ b % 1000000 = 0 by omega)]
  by_cases hzero : a % 1000000 = 0
  · rw [if_pos hzero, List.nil_append, List.cons_append]
    exact List.cons_lt_cons_iff.2 (Or.inl hc)
  · rw [if_neg hzero, List.cons_append, List.cons_append]
    refine List.cons_lt_cons_iff.2 (Or.inr ⟨rfl, ?_⟩)
    exact padded_lt (by decide) (show _ < 1000000 by omega) hmicro _ _

/-- **In universal time an earlier moment has an earlier text.** -/
theorem iso_lt {u v : Moment} (hu : u.IsValid) (hv : v.IsValid) (hu0 : u.offset = some 0)
    (hv0 : v.offset = some 0) (h : u.reading < v.reading) : u.iso < v.iso := by
  have hzero : (some (0 : Int)).map offsetText = some ('+' :: clockText 0 false) := rfl
  have huday := hu.shown
  have hvday := hv.shown
  simp only [Moment.shows, Bool.and_eq_true, decide_eq_true_eq] at huday hvday
  have hdays : dayOf u.date = u.dayNumber ∧ dayOf v.date = v.dayNumber :=
    ⟨dayOf_dateOf _, dayOf_dateOf _⟩
  rw [iso_eq, iso_eq, hu0, hv0, hzero, Option.getD_some, String.lt_iff,
    String.toList_ofList, String.toList_ofList]
  have hpos : (0 : Int) < day := by decide
  have hday : day = 86400000000 := rfl
  have huparts := Int.mul_ediv_add_emod u.reading day
  have hvparts := Int.mul_ediv_add_emod v.reading day
  have humod := Int.emod_nonneg u.reading (Int.ne_of_gt hpos)
  have hvmod := Int.emod_lt_of_pos v.reading hpos
  by_cases hsame : u.dayNumber = v.dayNumber
  · have hdate : u.date = v.date := congrArg dateOf hsame
    have hnumber : u.reading / day = v.reading / day := by
      have hu' : 0 ≤ u.reading / day := Int.ediv_nonneg huday.1 (Int.le_of_lt hpos)
      have hv' : 0 ≤ v.reading / day := Int.ediv_nonneg hvday.1 (Int.le_of_lt hpos)
      unfold Moment.dayNumber at hsame
      omega
    rw [hdate]
    refine List.append_left_lt (List.cons_lt_cons_iff.2 (Or.inr ⟨rfl, ?_⟩))
    rw [hnumber] at huparts
    exact clockText_lt_of_lt (by omega) (by omega) (by decide) _
  · refine dateText_lt (date_isValid hu) (date_isValid hv) ?_ _ _
    have hle : u.reading / day ≤ v.reading / day := Int.ediv_le_ediv hpos (Int.le_of_lt h)
    rw [hdays.1, hdays.2]
    unfold Moment.dayNumber at hsame ⊢
    omega

/-- **Texts in order tell instants in order.** -/
theorem reading_le_of_iso_le {u v : Moment} (hu : u.IsValid) (hv : v.IsValid)
    (hu0 : u.offset = some 0) (hv0 : v.offset = some 0) (h : u.iso ≤ v.iso) :
    u.reading ≤ v.reading := by
  by_contra hlt
  have htext := iso_lt hv hu hv0 hu0 (Int.not_le.1 hlt)
  exact String.not_le.2 htext h

/-! ### What a text can say -/

theorem ofWeekDate?_lt {year week weekday n : Nat}
    (h : ofWeekDate? year week weekday = some n) : n < 3652059 := by
  unfold ofWeekDate? at h
  split at h
  · dsimp only at h
    split at h
    · cases h
      omega
    · cases h
  · cases h

theorem dayOf_lt {d : Date} (h : d.isValid = true) : dayOf d < 3652059 := by
  have hyear := (dayOf_bounds h).2.2
  simp only [Date.isValid, Bool.and_eq_true, decide_eq_true_eq] at h
  have hle := daysBeforeYear_le (a := d.year + 1) (b := 10000) (by omega) (by omega)
  have hend : daysBeforeYear 10000 = 3652059 := by decide
  omega

theorem readDate_lt {cs : List Char} {n : Nat} (h : readDate cs = some n) : n < 3652059 := by
  have hweekday : ∀ {cs : List Char} {year week : Nat},
      ((takeNumber 1 cs).bind fun x => ofWeekDate? year week x.1) = some n → n < 3652059 := by
    intro cs year week h
    obtain ⟨x, -, h⟩ := Option.bind_eq_some_iff.1 h
    exact ofWeekDate?_lt h
  have hdate : ∀ {cs : List Char} {year month : Nat},
      ((takeNumber 2 cs).bind fun x =>
        if x.2.isEmpty && (⟨year, month, x.1⟩ : Date).isValid then
          some (dayOf ⟨year, month, x.1⟩) else none) = some n → n < 3652059 := by
    intro cs year month h
    obtain ⟨x, -, h⟩ := Option.bind_eq_some_iff.1 h
    split at h
    · rename_i hvalid
      rw [Bool.and_eq_true] at hvalid
      rw [← Option.some.inj h]
      exact dayOf_lt hvalid.2
    · cases h
  unfold readDate at h
  obtain ⟨⟨year, cs'⟩, -, h⟩ := Option.bind_eq_some_iff.1 h
  dsimp only at h
  split at h
  · obtain ⟨⟨week, cs''⟩, -, h⟩ := Option.bind_eq_some_iff.1 h
    dsimp only at h
    split at h
    · exact ofWeekDate?_lt h
    · split at h <;> obtain ⟨cs3, -, h⟩ := Option.bind_eq_some_iff.1 h <;> exact hweekday h
  · obtain ⟨⟨month, cs''⟩, -, h⟩ := Option.bind_eq_some_iff.1 h
    dsimp only at h
    split at h <;> obtain ⟨cs3, -, h⟩ := Option.bind_eq_some_iff.1 h <;> exact hdate h

theorem readOffset_lt {cs : List Char} {o : Int} (h : readOffset cs = some o) :
    o.natAbs < 86400000000 := by
  have hday : day = 86400000000 := rfl
  unfold readOffset at h
  split at h
  · split at h
    · cases h
    · rw [← Option.some.inj h]
      decide
  · obtain ⟨r, -, h⟩ := Option.bind_eq_some_iff.1 h
    split at h
    · cases h
    · dsimp only at h
      generalize hs : ((((r.part 0 * 60 + r.part 1) * 60 + r.part 2 : Nat) : Int)) = s at h
      have htotal : 0 ≤ if s = 0 then 0 else s * second + (r.micros : Int) := by
        have hsecond : second = 1000000 := rfl
        rw [hsecond]
        split <;> omega
      generalize (if s = 0 then 0 else s * second + (r.micros : Int)) = total at h htotal
      split at h
      · rw [← Option.some.inj h]
        split <;> omega
      · cases h
  · cases h

theorem readTime_spec {cs : List Char} {t : TimeOfDay} {o : Option Int}
    (h : readTime cs = some (t, o)) :
    t.isValid = true ∧ ∀ offset ∈ o, offset.natAbs < 86400000000 := by
  unfold readTime at h
  obtain ⟨r, -, h⟩ := Option.bind_eq_some_iff.1 h
  dsimp only at h
  split at h <;> obtain ⟨offset, hoffset, h⟩ := Option.bind_eq_some_iff.1 h <;> split at h
  · rename_i hvalid
    split at hoffset
    · cases hoffset
    · cases hoffset
      cases h
      exact ⟨hvalid, fun o ho => by cases ho⟩
  · cases h
  · rename_i hvalid
    obtain ⟨o', ho', rfl⟩ := Option.map_eq_some_iff.1 hoffset
    cases h
    refine ⟨hvalid, ?_⟩
    intro o ho
    cases ho
    exact readOffset_lt ho'
  · cases h

/-- **What is read from a text is a moment that a clock can show.** -/
theorem ofIso?_isValid {text : String} {m : Moment} (h : Moment.ofIso? text = some m) :
    m.IsValid := by
  have hshown : ∀ {n : Nat} {us : Int}, n < 3652059 → 0 ≤ us → us < day →
      Moment.shows (n * day + us) = true := by
    intro n us hn h0 hlt
    have hday : day = 86400000000 := rfl
    have hend : endOfTime = 3652059 * 86400000000 := rfl
    simp only [Moment.shows, Bool.and_eq_true, decide_eq_true_eq]
    rw [hday] at hlt ⊢
    rw [hend]
    omega
  unfold Moment.ofIso? at h
  obtain ⟨length, -, h⟩ := Option.bind_eq_some_iff.1 h
  obtain ⟨n, hn, h⟩ := Option.bind_eq_some_iff.1 h
  have hlt := readDate_lt hn
  split at h
  · cases h
    have hstart := hshown hlt (Int.le_refl 0) (by decide)
    rw [Int.add_zero] at hstart
    exact ⟨hstart, fun o ho => by cases ho⟩
  · obtain ⟨⟨t, offset⟩, htime, h⟩ := Option.bind_eq_some_iff.1 h
    cases h
    obtain ⟨hvalid, hoffset⟩ := readTime_spec htime
    refine ⟨hshown hlt ?_ ?_, hoffset⟩
    · unfold TimeOfDay.micros
      omega
    · have hday : day = 86400000000 := rfl
      simp only [TimeOfDay.isValid, Bool.and_eq_true, decide_eq_true_eq] at hvalid
      unfold TimeOfDay.micros
      omega

end Time
end Cadence
