/-
# Moments come back from their texts

`Moment.iso` writes a moment and `Moment.ofIso?` reads it: what is read is the moment that was
written (`ofIso?_iso`), with one exception that the reader makes on its own. An offset of less than
a second is taken for none, so the reading is `Moment.kept`. Offsets of whole seconds, and with them
every offset that clocks really have, are kept (`kept_of_wholeSecond`).

A text is a date of ten characters, a separator and a clock text with an offset. Every number in it
is `padded` to a fixed width, so the reader's `takeNumber` finds it (`takeNumber_padded`).

Key definitions: `Moment.IsValid`, `Moment.kept`.
Key theorems: `takeNumber_padded`, `readClock_clockText`, `ofIso?_iso`, `toUtc_eq`.
-/
import Cadence.Proofs.Time.Civil
import Cadence.Time.Iso

namespace Cadence
namespace Time

/-- What a clock can show: its reading lies in the years 1 to 9999 and its offset, if known, below a
day. -/
structure Moment.IsValid (m : Moment) : Prop where
  shown : Moment.shows m.reading = true
  offset_lt : ∀ o ∈ m.offset, o.natAbs < 86400000000

/-- A moment as it is read back from its text: an offset below a second is taken for none. -/
def Moment.kept (m : Moment) : Moment :=
  ⟨m.reading, m.offset.map fun o => if o.natAbs < 1000000 then 0 else o⟩

theorem Moment.kept_of_wholeSecond {m : Moment} (h : ∀ o ∈ m.offset, o = 0 ∨ 1000000 ≤ o.natAbs) :
    m.kept = m := by
  rcases m with ⟨r, _ | o⟩
  · rfl
  · have ho := h o rfl
    simp only [kept, Option.map_some]
    split
    · rw [show o = 0 by omega]
    · rfl

/-! ### Numbers of a fixed width -/

theorem padded_length {width n : Nat} (h : n < Nat.pow 10 width) (hw : 0 < width) :
    (padded width n).length = width := by
  have := (Nat.length_toDigits_le_iff (by decide : 1 < 10) hw).2 h
  simp only [padded, List.length_append, List.length_replicate]
  omega

theorem padded_digits (width n : Nat) : ∀ c ∈ padded width n, c.isDigit = true := by
  intro c hc
  simp only [padded, List.mem_append, List.mem_replicate] at hc
  rcases hc with ⟨-, rfl⟩ | hc
  · rfl
  · exact Nat.isDigit_of_mem_toDigits (by decide) (by decide) hc

theorem foldl_padded (width n : Nat) :
    (padded width n).foldl (fun v d => v * 10 + (d.toNat - 48)) 0 = n := by
  have h : Nat.ofDigitChars 10 (padded width n) 0 = n := by
    rw [padded, Nat.ofDigitChars_append, Nat.ofDigitChars_replicate_zero, Nat.mul_zero,
      Nat.ofDigitChars_ten_toDigits]
  rw [Nat.ofDigitChars_eq_foldl] at h
  simpa [Nat.mul_comm] using h

/-- A number is found again at the start of a text if it is written with as many digits as are
read. -/
theorem takeNumber_padded {width n : Nat} (h : n < Nat.pow 10 width) (hw : 0 < width)
    (rest : List Char) : takeNumber width (padded width n ++ rest) = some (n, rest) := by
  have hl := padded_length h hw
  have htake : (padded width n ++ rest).take width = padded width n := List.take_left' hl
  have hdrop : (padded width n ++ rest).drop width = rest := List.drop_left' hl
  have hall : (padded width n).all Char.isDigit = true := List.all_eq_true.2 (padded_digits width n)
  simp only [takeNumber, htake, hdrop, hl, hall, foldl_padded, and_self, if_true]

/-! ### Clock texts -/

/-- The fraction of a clock text is read to its end. -/
theorem readFraction_padded {us : Nat} (h : us < 1000000) :
    readFraction (padded 6 us) = some (us, false) := by
  have hl := @padded_length 6 us (by simpa using h) (by decide)
  have ht := @takeNumber_padded 6 us (by simpa using h) (by decide) []
  rw [List.append_nil] at ht
  simp only [readFraction, hl, Nat.min_self, ht, Nat.sub_self]
  show some (us * 1, false) = _
  rw [Nat.mul_one]

theorem padded_isEmpty {width n : Nat} (h : n < Nat.pow 10 width) (hw : 0 < width)
    (rest : List Char) : (padded width n ++ rest).isEmpty = false := by
  have hl := padded_length h hw
  cases hp : padded width n with
  | nil =>
    rw [hp] at hl
    exact absurd hl.symm (Nat.ne_of_gt hw)
  | cons => rfl

/-- A part with a colon after it is read, and the colon says that colons separate the parts. -/
theorem readClock_colon {todo n : Nat} {colons : Bool} (h : n < 100)
    (hc : todo = 2 ∨ colons = true) (parts : List Nat) {more : List Char}
    (hm : more.isEmpty = false) :
    readClock (todo + 1) parts colons (padded 2 n ++ ':' :: more) =
      readClock todo (parts ++ [n]) true more := by
  have hcolons : (if todo = 2 then True else colons = true) := by
    split
    · trivial
    · rcases hc with h2 | hc
      · contradiction
      · exact hc
  rw [readClock, takeNumber_padded (by simpa using h) (by decide)]
  simp only [Option.bind_eq_bind, Option.bind_some, hm, Bool.false_and, Bool.false_eq_true,
    if_false, hcolons, Bool.and_self, decide_true, if_true]

/-- The last part of a clock text. -/
theorem readClock_last {todo n : Nat} (h : n < 100) (parts : List Nat) (colons : Bool) :
    readClock (todo + 1) parts colons (padded 2 n) = some ⟨parts ++ [n], 0, false⟩ := by
  have ht := @takeNumber_padded 2 n (by simpa using h) (by decide) []
  rw [List.append_nil] at ht
  rw [readClock, ht]
  rfl

/-- The last part of a clock text with a fraction. -/
theorem readClock_fraction {n us : Nat} (h : n < 100) (hus : us < 1000000) (parts : List Nat) :
    readClock 1 parts true (padded 2 n ++ '.' :: padded 6 us) =
      some ⟨parts ++ [n], us, false⟩ := by
  have hne := @padded_isEmpty 6 us (by simpa using hus) (by decide) []
  rw [List.append_nil] at hne
  rw [readClock, takeNumber_padded (by simpa using h) (by decide)]
  simp only [Option.bind_eq_bind, Option.bind_some, hne, Bool.false_and, Bool.false_eq_true,
    if_false, readFraction_padded hus]
  rfl

/-- **A clock text is read back**: its parts, its fraction, and nothing is left over. -/
theorem readClock_clockText {us : Nat} (h : us < 86400000000) (withSeconds : Bool) :
    ∃ r, readClock 3 [] false (clockText us withSeconds) = some r ∧
      r.part 0 = us / 1000000 / 3600 ∧ r.part 1 = us / 1000000 / 60 % 60 ∧
      r.part 2 = us / 1000000 % 60 ∧ r.micros = us % 1000000 ∧ r.left = false := by
  have hh : us / 1000000 / 3600 < 100 := by omega
  have hm : us / 1000000 / 60 % 60 < 100 := by omega
  have hs : us / 1000000 % 60 < 100 := by omega
  have hus : us % 1000000 < 1000000 := by omega
  simp only [clockText, List.append_assoc, List.cons_append]
  rw [readClock_colon hh (Or.inl rfl) [] (padded_isEmpty (by simpa using hm) (by decide) _)]
  by_cases hsec : (withSeconds || us / 1000000 % 60 != 0 || us % 1000000 != 0) = true
  · rw [if_pos hsec, List.cons_append,
      readClock_colon hm (Or.inr rfl) _ (padded_isEmpty (by simpa using hs) (by decide) _)]
    by_cases h0 : us % 1000000 = 0
    · rw [if_pos h0, List.append_nil, readClock_last hs]
      refine ⟨_, rfl, ?_⟩
      simp [ClockRead.part, h0]
    · rw [if_neg h0, readClock_fraction hs hus]
      refine ⟨_, rfl, ?_⟩
      simp [ClockRead.part]
  · simp only [Bool.or_eq_true, bne_iff_ne, ne_eq, not_or, Decidable.not_not] at hsec
    obtain ⟨⟨hw, hs0⟩, hu0⟩ := hsec
    simp only [hw, hs0, hu0, bne_self_eq_false, Bool.or_self, Bool.false_eq_true, if_false,
      if_true, List.append_nil]
    rw [readClock_last hm]
    refine ⟨_, rfl, ?_⟩
    simp [ClockRead.part]

/-- No character of a clock text starts an offset. -/
theorem startsOffset_clockText (us : Nat) (withSeconds : Bool) :
    ∀ c ∈ clockText us withSeconds, startsOffset c = false := by
  have hdigit : ∀ width n, ∀ c ∈ padded width n, startsOffset c = false := by
    intro width n c hc
    have hd := padded_digits width n c hc
    simp only [startsOffset, Bool.or_eq_false_iff, decide_eq_false_iff_not]
    refine ⟨⟨?_, ?_⟩, ?_⟩ <;> rintro rfl <;> simp at hd
  intro c hc
  simp only [clockText, List.append_assoc, List.mem_append, List.cons_append,
    List.mem_cons] at hc
  rcases hc with hc | rfl | hc | hc | hc
  · exact hdigit _ _ c hc
  · rfl
  · exact hdigit _ _ c hc
  · split at hc
    · rcases List.mem_cons.1 hc with rfl | hc
      · rfl
      · exact hdigit _ _ c hc
    · simp at hc
  · split at hc
    · simp at hc
    · rcases List.mem_cons.1 hc with rfl | hc
      · rfl
      · exact hdigit _ _ c hc

/-! ### Offsets -/

/-- **An offset is read back** from its text, unless it is below a second. -/
theorem readOffset_offsetText {o : Int} (h : o.natAbs < 86400000000) :
    readOffset (offsetText o) = some (if o.natAbs < 1000000 then 0 else o) := by
  obtain ⟨r, hr, h0, h1, h2, hus, hleft⟩ := readClock_clockText h false
  have htotal : (if ((r.part 0 * 60 + r.part 1) * 60 + r.part 2 : Nat) = (0 : Int) then 0
      else ((r.part 0 * 60 + r.part 1) * 60 + r.part 2 : Nat) * second + r.micros) =
      if o.natAbs < 1000000 then 0 else (o.natAbs : Int) := by
    rw [h0, h1, h2, hus]
    unfold second
    split <;> split <;> omega
  have hlt : (if o.natAbs < 1000000 then 0 else (o.natAbs : Int)) < day := by
    unfold day second
    split <;> omega
  have key : ∀ sign : Char, sign ≠ 'Z' →
      readOffset (sign :: clockText o.natAbs false) =
        some (if sign = '-' then -(if o.natAbs < 1000000 then 0 else (o.natAbs : Int))
          else if o.natAbs < 1000000 then 0 else (o.natAbs : Int)) := by
    intro sign hsign
    unfold readOffset
    split
    · rename_i heq
      exact absurd (List.cons.inj heq).1 hsign
    · rename_i heq
      obtain ⟨rfl, rfl⟩ := List.cons.inj heq
      simp only [hr, Option.bind_eq_bind, Option.bind_some, hleft, Bool.false_eq_true, if_false,
        htotal, hlt, if_true]
    · rename_i heq
      simp at heq
  unfold offsetText
  by_cases hneg : o < 0
  · rw [if_pos hneg, key '-' (by decide), if_pos rfl]
    congr 1
    split <;> omega
  · rw [if_neg hneg, key '+' (by decide), if_neg (by decide)]
    congr 1
    split <;> omega

/-! ### Times and dates -/

/-- The time of day that a moment shows, in microseconds since midnight. -/
theorem timeOfDay_micros (m : Moment) : m.timeOfDay.micros = m.reading % day := by
  have h0 : 0 ≤ m.reading % day := Int.emod_nonneg _ (by decide)
  simp only [Moment.timeOfDay, TimeOfDay.micros]
  omega

theorem timeOfDay_isValid (m : Moment) : m.timeOfDay.isValid = true := by
  have h0 : 0 ≤ m.reading % day := Int.emod_nonneg _ (by decide)
  have h1 : m.reading % day < 86400000000 := Int.emod_lt_of_pos _ (by decide)
  have hhour : m.timeOfDay.hour < 24 := by
    unfold Moment.timeOfDay
    show _ / 3600 < 24
    omega
  have hminute : m.timeOfDay.minute < 60 := Nat.mod_lt _ (by decide)
  have hsecond : m.timeOfDay.second < 60 := Nat.mod_lt _ (by decide)
  have hmicro : m.timeOfDay.micro < 1000000 := Nat.mod_lt _ (by decide)
  simp only [TimeOfDay.isValid, hhour, hminute, hsecond, hmicro, decide_true, Bool.and_self]

/-- **A time of day with an offset is read back.** -/
theorem readTime_clockText {m : Moment} (h : m.IsValid) :
    readTime (clockText (m.reading % day).toNat true ++ (m.offset.map offsetText).getD []) =
      some (m.timeOfDay, m.kept.offset) := by
  have h1 : (m.reading % day).toNat < 86400000000 := by
    have : m.reading % day < 86400000000 := Int.emod_lt_of_pos _ (by decide)
    omega
  obtain ⟨r, hr, hp0, hp1, hp2, hus, hleft⟩ := readClock_clockText h1 true
  have hclock : ∀ c ∈ clockText (m.reading % day).toNat true, (!startsOffset c) = true := by
    intro c hc
    rw [startsOffset_clockText _ _ c hc]
    rfl
  have ht : (⟨r.part 0, r.part 1, r.part 2, r.micros⟩ : TimeOfDay) = m.timeOfDay := by
    rw [hp0, hp1, hp2, hus]
    rfl
  unfold readTime
  rw [List.takeWhile_append_of_pos hclock, List.dropWhile_append_of_pos hclock]
  rcases hm : m.offset with _ | o
  · have hk : m.kept.offset = none := by simp [Moment.kept, hm]
    simp only [Option.map_none, Option.getD_none, List.takeWhile_nil, List.dropWhile_nil,
      List.append_nil, hr, Option.bind_eq_bind, Option.bind_some, List.isEmpty_nil, if_true,
      hleft, Bool.false_eq_true, if_false, ht, timeOfDay_isValid, hk]
  · have hk : m.kept.offset = some (if o.natAbs < 1000000 then 0 else o) := by
      simp [Moment.kept, hm]
    have hstart : ∃ c rest, offsetText o = c :: rest ∧ startsOffset c = true := by
      refine ⟨_, _, rfl, ?_⟩
      split <;> rfl
    obtain ⟨c, rest, ho, hc⟩ := hstart
    have hhead : (!startsOffset c) = false := by rw [hc]; rfl
    rw [Option.map_some, Option.getD_some, ho, List.takeWhile_cons_of_neg (by simp [hhead]),
      List.dropWhile_cons_of_neg (by simp [hhead]), List.append_nil, ← ho, hr]
    have hne : (offsetText o).isEmpty = false := by rw [ho]; rfl
    simp only [hne, readOffset_offsetText (h.offset_lt o hm), Option.bind_eq_bind,
      Option.bind_some, Bool.false_eq_true, if_false, Option.map_some, ht, timeOfDay_isValid,
      if_true, hk]

/-- The text of a date. -/
def dateText (d : Date) : List Char :=
  padded 4 d.year ++ '-' :: padded 2 d.month ++ '-' :: padded 2 d.day

theorem Date.year_lt {d : Date} (h : d.isValid = true) : d.year < Nat.pow 10 4 := by
  simp only [Date.isValid, Bool.and_eq_true, decide_eq_true_eq] at h
  show d.year < 10000
  omega

theorem Date.month_lt {d : Date} (h : d.isValid = true) : d.month < Nat.pow 10 2 := by
  simp only [Date.isValid, Bool.and_eq_true, decide_eq_true_eq] at h
  show d.month < 100
  omega

theorem Date.day_lt {d : Date} (h : d.isValid = true) : d.day < Nat.pow 10 2 := by
  have := daysInMonth_le d.year d.month
  simp only [Date.isValid, Bool.and_eq_true, decide_eq_true_eq] at h
  show d.day < 100
  omega

theorem dateText_length {d : Date} (h : d.isValid = true) : (dateText d).length = 10 := by
  simp only [dateText, List.length_append, List.length_cons,
    padded_length (Date.year_lt h) (by decide), padded_length (Date.month_lt h) (by decide),
    padded_length (Date.day_lt h) (by decide)]

/-- **The text of a date is read back** as the day of the date. -/
theorem readDate_dateText {d : Date} (h : d.isValid = true) :
    readDate (dateText d) = some (dayOf d) := by
  have hd := takeNumber_padded (Date.day_lt h) (by decide) []
  rw [List.append_nil] at hd
  unfold readDate dateText
  rw [List.append_assoc, takeNumber_padded (Date.year_lt h) (by decide)]
  simp only [Option.bind_eq_bind, Option.bind_some, List.cons_append, List.head?_cons, if_true,
    List.tail_cons]
  split
  · rename_i heq
    have hlen := padded_length (Date.month_lt h) (by decide)
    rcases hp : padded 2 d.month with _ | ⟨c, cs⟩
    · simp [hp] at hlen
    · rw [hp, List.cons_append] at heq
      have hdig := padded_digits 2 d.month c (by rw [hp]; exact List.mem_cons_self)
      rw [(List.cons.inj heq).1] at hdig
      simp at hdig
  · rw [takeNumber_padded (Date.month_lt h) (by decide)]
    simp only [Option.bind_some, List.head?_cons, if_true, List.tail_cons, hd, List.isEmpty_nil,
      h, Bool.and_self]

theorem dateLength_dateText {d : Date} (h : d.isValid = true) (c : Char) (rest : List Char) :
    dateLength (dateText d ++ c :: rest) = some 10 := by
  have hlen := dateText_length h
  have h4 : (dateText d ++ c :: rest)[4]? = some '-' := by
    simp only [dateText, List.append_assoc, List.cons_append]
    rw [List.getElem?_append_right (Nat.le_of_eq (padded_length (Date.year_lt h) (by decide))),
      padded_length (Date.year_lt h) (by decide)]
    rfl
  have h5 : (dateText d ++ c :: rest)[5]? ≠ some 'W' := by
    have hml := padded_length (Date.month_lt h) (by decide)
    rcases hp : padded 2 d.month with _ | ⟨a, as⟩
    · simp [hp] at hml
    · have hdig := padded_digits 2 d.month a (by rw [hp]; exact List.mem_cons_self)
      simp only [dateText, List.append_assoc, List.cons_append, hp]
      rw [List.getElem?_append_right (by rw [padded_length (Date.year_lt h) (by decide)]; omega),
        padded_length (Date.year_lt h) (by decide)]
      simp only [List.getElem?_cons_succ, List.getElem?_cons_zero, ne_eq, Option.some.injEq,
        Nat.reduceSub]
      rintro rfl
      simp at hdig
  unfold dateLength
  simp only [List.length_append, hlen, List.length_cons, h4, h5, if_true, if_false]
  rw [if_neg (by omega), if_neg (by omega)]

/-! ### Moments -/

/-- The date that a valid moment shows exists. -/
theorem date_isValid {m : Moment} (h : m.IsValid) : m.date.isValid = true := by
  have hshown := h.shown
  simp only [Moment.shows, endOfTime, Bool.and_eq_true, decide_eq_true_eq] at hshown
  have hday : m.reading / day < 3652059 :=
    Int.ediv_lt_of_lt_mul (by decide) (by simpa [Int.mul_comm] using hshown.2)
  refine dateOf_valid ?_
  unfold Moment.dayNumber
  omega

/-- A moment is the day that it shows and the time of that day. -/
theorem reading_eq {m : Moment} (h : m.IsValid) :
    (dayOf m.date : Int) * day + m.timeOfDay.micros = m.reading := by
  have hshown := h.shown
  simp only [Moment.shows, Bool.and_eq_true, decide_eq_true_eq] at hshown
  have h0 : 0 ≤ m.reading / day := Int.ediv_nonneg hshown.1 (by decide)
  rw [show dayOf m.date = m.dayNumber from dayOf_dateOf _, timeOfDay_micros,
    show (m.dayNumber : Int) = m.reading / day from Int.toNat_of_nonneg h0]
  exact Int.ediv_mul_add_emod m.reading day

theorem iso_eq (m : Moment) : m.iso = String.ofList (dateText m.date ++ 'T' ::
    (clockText (m.reading % day).toNat true ++ (m.offset.map offsetText).getD [])) := by
  simp only [Moment.iso, Moment.localText, dateText, List.append_assoc, List.cons_append]

theorem iso_ne_empty (m : Moment) : m.iso ≠ "" := by
  intro hempty
  have hlist := congrArg String.toList hempty
  rw [iso_eq, String.toList_ofList] at hlist
  have hlength := congrArg List.length hlist
  simp at hlength

/-- **A moment comes back from its text.** -/
theorem ofIso?_iso {m : Moment} (h : m.IsValid) : Moment.ofIso? m.iso = some m.kept := by
  have hvalid := date_isValid h
  unfold Moment.ofIso?
  simp only [iso_eq, String.toList_ofList, dateLength_dateText hvalid, Option.bind_eq_bind,
    Option.bind_some, List.take_left' (dateText_length hvalid),
    List.drop_left' (dateText_length hvalid), readDate_dateText hvalid, readTime_clockText h,
    reading_eq h]
  rfl

/-! ### Universal time -/

theorem assumeUtc_isValid {m : Moment} (h : m.IsValid) : m.assumeUtc.IsValid := by
  rcases m with ⟨reading, _ | o⟩
  · refine ⟨h.shown, ?_⟩
    intro o ho
    cases ho
    decide
  · exact h

theorem assumeUtc_of_known {m : Moment} (h : m.offset.isSome = true) : m.assumeUtc = m := by
  obtain ⟨o, ho⟩ := Option.isSome_iff_exists.1 h
  unfold Moment.assumeUtc
  rw [ho]

/-- Two moments whose offsets are known can be compared. -/
theorem le?_isSome {a b : Moment} (ha : a.offset.isSome = true) (hb : b.offset.isSome = true) :
    (a.le? b).isSome = true := by
  obtain ⟨x, hx⟩ := Option.isSome_iff_exists.1 ha
  obtain ⟨y, hy⟩ := Option.isSome_iff_exists.1 hb
  unfold Moment.le? Moment.compare?
  rw [hx, hy]
  rfl

/-- In universal time a moment is the same instant. -/
theorem toUtc_eq {m u : Moment} (hu : m.toUtc = some u) :
    u.offset = some 0 ∧ u.reading = m.reading - m.offset.getD 0 := by
  unfold Moment.toUtc at hu
  split at hu
  · rename_i hzero
    cases hu
    refine ⟨hzero, ?_⟩
    rw [hzero, Option.getD_some, Int.sub_zero]
  · unfold Moment.atOffset at hu
    dsimp only at hu
    split at hu
    · cases hu
      exact ⟨rfl, Int.add_zero _⟩
    · cases hu

theorem toUtc_isValid {m u : Moment} (h : m.IsValid) (hu : m.toUtc = some u) : u.IsValid := by
  refine ⟨?_, ?_⟩
  · unfold Moment.toUtc at hu
    split at hu
    · cases hu
      exact h.shown
    · unfold Moment.atOffset at hu
      dsimp only at hu
      split at hu
      · rename_i hshown
        cases hu
        rw [Bool.and_eq_true] at hshown
        exact hshown.2
      · cases hu
  · intro o ho
    rw [(toUtc_eq hu).1] at ho
    cases ho
    decide

/-- What is not after a moment in universal time is not after the moment. -/
theorem le?_of_toUtc {m u t : Moment} (ho : m.offset.isSome = true) (hu : m.toUtc = some u) :
    u.le? t = m.le? t := by
  obtain ⟨o, ho⟩ := Option.isSome_iff_exists.1 ho
  obtain ⟨hzero, hreading⟩ := toUtc_eq hu
  rw [ho, Option.getD_some] at hreading
  unfold Moment.le? Moment.compare?
  rw [hzero, ho, hreading]
  cases t.offset with
  | none => rfl
  | some x => simp only [Int.sub_zero]

/-- What was read back once stays the same. -/
theorem kept_kept (m : Moment) : m.kept.kept = m.kept := by
  refine Moment.kept_of_wholeSecond ?_
  intro o ho
  obtain ⟨o', -, rfl⟩ := Option.map_eq_some_iff.1 ho
  split
  · exact Or.inl rfl
  · rename_i hlarge
    exact Or.inr (Nat.le_of_not_lt hlarge)

theorem kept_known (m : Moment) : m.kept.offset.isSome = m.offset.isSome := by
  unfold Moment.kept
  rw [Option.isSome_map]

/-- In universal time a moment is the same instant. -/
theorem instant?_of_toUtc {m u : Moment} (ho : m.offset.isSome = true) (hu : m.toUtc = some u) :
    m.instant? = some u.reading ∧ u.instant? = some u.reading := by
  obtain ⟨o, ho⟩ := Option.isSome_iff_exists.1 ho
  obtain ⟨hzero, hreading⟩ := toUtc_eq hu
  rw [ho, Option.getD_some] at hreading
  unfold Moment.instant?
  rw [ho, hzero, hreading]
  exact ⟨rfl, congrArg some (Int.sub_zero _)⟩

/-- A moment in universal time is read back as it is. -/
theorem kept_of_utc {m : Moment} (h : m.offset = some 0) : m.kept = m := by
  refine Moment.kept_of_wholeSecond ?_
  intro o ho
  rw [h] at ho
  cases ho
  exact Or.inl rfl

/-- A moment that was read back is still one that clocks can show. -/
theorem kept_isValid {m : Moment} (h : m.IsValid) : m.kept.IsValid := by
  refine ⟨h.shown, ?_⟩
  intro o ho
  obtain ⟨o', ho', rfl⟩ := Option.map_eq_some_iff.1 ho
  split
  · decide
  · exact h.offset_lt o' ho'

end Time
end Cadence
