/-
# Stored times can be read

A moment is stored as the text of `Moment.iso` and read by `Decode.momentOfString`, a reader of
other formats as well, which works on bytes. It gives the moment back if the offset is one that it
reads: a whole number of minutes (`momentOfString_iso`). All times that a service stamps are of
this kind, because they are in universal time (`universal_spec`). The text of any other moment is not
read at all, so no text is read as another moment (`momentOfString_of_iso`).

Key definitions: `WholeMinutes`, `charsWith`, `isoChars`.
Key theorems: `bytesOf_ofList`, `momentOfString_iso`, `momentOfString_wire`,
`momentOfString_of_iso`, `universal_spec`.
-/
import Cadence.Decode.Moment
import Cadence.Proofs.Time.Iso

namespace Cadence
namespace Decode

open Time

/-! ### Bytes of plain texts -/

theorem toList_loop (bs : ByteArray) : ∀ (todo i : Nat) (r : List UInt8), bs.size - i = todo →
    ByteArray.toList.loop bs i r = r.reverse ++ bs.data.toList.drop i
  | 0, i, r, h => by
    have hsize : bs.data.toList.length ≤ i := by
      rw [Array.length_toList]
      show bs.size ≤ i
      omega
    rw [ByteArray.toList.loop, if_neg (by omega), List.drop_eq_nil_of_le hsize, List.append_nil]
  | todo + 1, i, r, h => by
    have hi : i < bs.data.toList.length := by
      rw [Array.length_toList]
      show i < bs.size
      omega
    have hget : bs.get! i = bs.data.toList[i] := by
      rw [Array.length_toList] at hi
      show bs.data[i]! = _
      rw [getElem!_pos bs.data i hi, Array.getElem_toList]
    rw [ByteArray.toList.loop, if_pos (by omega), toList_loop bs todo (i + 1) _ (by omega),
      List.reverse_cons, List.append_assoc, List.singleton_append, hget,
      ← List.drop_eq_getElem_cons hi]

/-- The bytes of a text of ASCII characters are its characters. -/
theorem bytesOf_ofList {cs : List Char} (h : ∀ c ∈ cs, c.toNat < 128) :
    bytesOf (String.ofList cs) = cs := by
  have hbytes : ∀ {cs : List Char}, (∀ c ∈ cs, c.toNat < 128) →
      (cs.flatMap String.utf8EncodeChar).map (fun b => Char.ofNat b.toNat) = cs := by
    intro cs
    induction cs with
    | nil => exact fun _ => rfl
    | cons c cs ih =>
      intro h
      have hc := h c List.mem_cons_self
      have hsize : c.utf8Size = 1 := by
        rw [Char.utf8Size_eq_one_iff, UInt32.le_iff_toNat_le]
        show c.toNat ≤ 127
        omega
      have hback : Char.ofNat c.val.toUInt8.toNat = c := by
        have hmod : c.val.toUInt8.toNat = c.toNat := by
          rw [UInt32.toNat_toUInt8]
          exact Nat.mod_eq_of_lt (by show c.toNat < 256; omega)
        rw [hmod, Char.ofNat_toNat]
      rw [List.flatMap_cons, String.utf8EncodeChar_eq_singleton hsize, List.map_append,
        ih fun d hd => h d (List.mem_cons_of_mem _ hd), List.map_singleton, hback]
      rfl
  have hlist : (String.ofList cs).toUTF8.toList = cs.flatMap String.utf8EncodeChar := by
    rw [String.toUTF8_eq_toByteArray]
    show ByteArray.toList.loop (List.utf8Encode cs) 0 [] = _
    rw [toList_loop _ _ 0 [] rfl, List.reverse_nil, List.nil_append, List.drop_zero]
    exact List.toList_data_toByteArray
  unfold bytesOf
  rw [hlist]
  exact hbytes h

theorem isDigit_lt {c : Char} (h : c.isDigit = true) : c.toNat < 128 := by
  simp only [Char.isDigit, Bool.and_eq_true, decide_eq_true_eq, UInt32.le_iff_toNat_le] at h
  have h2 : c.val.toNat ≤ 57 := h.2
  show c.val.toNat < 128
  omega

theorem padded_lt {width n : Nat} : ∀ c ∈ padded width n, c.toNat < 128 :=
  fun c hc => isDigit_lt (padded_digits width n c hc)

theorem clockText_lt (us : Nat) (withSeconds : Bool) :
    ∀ c ∈ clockText us withSeconds, c.toNat < 128 := by
  intro c hc
  simp only [clockText, List.append_assoc, List.mem_append, List.cons_append,
    List.mem_cons] at hc
  rcases hc with hc | rfl | hc | hc | hc
  · exact padded_lt c hc
  · decide
  · exact padded_lt c hc
  · split at hc
    · rcases List.mem_cons.1 hc with rfl | hc
      · decide
      · exact padded_lt c hc
    · exact absurd hc List.not_mem_nil
  · split at hc
    · exact absurd hc List.not_mem_nil
    · rcases List.mem_cons.1 hc with rfl | hc
      · decide
      · exact padded_lt c hc

theorem offsetText_lt (o : Int) : ∀ c ∈ offsetText o, c.toNat < 128 := by
  intro c hc
  rcases List.mem_cons.1 hc with rfl | hc
  · split <;> decide
  · exact clockText_lt _ _ c hc

/-! ### Parts of a text -/

theorem digitsValue?_padded {width n : Nat} (h : n < Nat.pow 10 width) (hw : 0 < width) :
    digitsValue? (padded width n) = some n := by
  have hne : (padded width n).isEmpty = false := by
    rw [List.isEmpty_eq_false_iff, ← List.length_pos_iff, padded_length h hw]
    exact hw
  have hall : (padded width n).all Char.isDigit = true :=
    List.all_eq_true.2 (padded_digits width n)
  unfold digitsValue?
  rw [hne, hall]
  exact congrArg some (foldl_padded width n)

/-- Two digits are read off the front of a text. -/
theorem twoDigits?_padded {n : Nat} (h : n < 100) (rest : List Char) :
    twoDigits? (padded 2 n ++ rest) = some (n, rest) := by
  have hlen : (padded 2 n).length = 2 := padded_length h (by decide)
  have hval : digitsValue? (padded 2 n) = some n := digitsValue?_padded h (by decide)
  match hp : padded 2 n, hlen with
  | [a, b], _ =>
    rw [hp] at hval
    show (digitsValue? [a, b]).map (·, rest) = _
    rw [hval]
    rfl

theorem getElem?_dateText {d : Date} (h : d.isValid = true) (rest : List Char) :
    (dateText d ++ rest)[4]? = some '-' ∧ (dateText d ++ rest)[7]? = some '-' ∧
      (dateText d ++ rest).take 4 = padded 4 d.year ∧
      ((dateText d ++ rest).drop 5).take 2 = padded 2 d.month ∧
      ((dateText d ++ rest).drop 8).take 2 = padded 2 d.day := by
  have hy := padded_length (Date.year_lt h) (by decide)
  have hm := padded_length (Date.month_lt h) (by decide)
  have hd := padded_length (Date.day_lt h) (by decide)
  unfold dateText
  generalize padded 4 d.year = ys at hy ⊢
  generalize padded 2 d.month = ms at hm ⊢
  generalize padded 2 d.day = ds at hd ⊢
  match ys, hy, ms, hm, ds, hd with
  | [_, _, _, _], _, [_, _], _, [_, _], _ => exact ⟨rfl, rfl, rfl, rfl, rfl⟩

/-- A date is read off the front of a text. -/
theorem dateAtStart_dateText {d : Date} (h : d.isValid = true) (rest : List Char) :
    dateAtStart (dateText d ++ rest) = .ok (d, rest) := by
  obtain ⟨h4, h7, hy, hm, hd⟩ := getElem?_dateText h rest
  have hlen := dateText_length h
  have hdrop : (dateText d ++ rest).drop 10 = rest := List.drop_left' hlen
  have hlong : ¬ (dateText d ++ rest).length < 10 := by
    rw [List.length_append]
    omega
  have hyear := digitsValue?_padded (Date.year_lt h) (by decide)
  have hmonth := digitsValue?_padded (Date.month_lt h) (by decide)
  have hday := digitsValue?_padded (Date.day_lt h) (by decide)
  simp only [Date.isValid, Bool.and_eq_true, decide_eq_true_eq] at h
  have hmonths : ¬ (d.month < 1 ∨ 12 < d.month) := by omega
  have hdays : ¬ (d.day < 1 ∨ daysInMonth d.year d.month < d.day) := by omega
  unfold dateAtStart
  simp only [hlong, h4, h7, hy, hm, hd, hyear, hmonth, hday, hdrop, Option.elim,
    bne_self_eq_false, Bool.false_eq_true, if_false, Bool.or_eq_true, decide_eq_true_eq, pure_bind,
    hmonths, hdays]
  rfl

/-- The characters behind digits start with something else, or there are none. -/
def Ends (cs : List Char) : Prop := ∀ c ∈ cs.head?, c.isDigit = false ∧ c ≠ '.' ∧ c ≠ ','

theorem takeWhile_digits {ds rest : List Char} (hd : ∀ c ∈ ds, c.isDigit = true)
    (hr : Ends rest) : (ds ++ rest).takeWhile Char.isDigit = ds ∧
      (ds ++ rest).dropWhile Char.isDigit = rest := by
  rw [List.takeWhile_append_of_pos hd, List.dropWhile_append_of_pos hd]
  cases rest with
  | nil => exact ⟨List.append_nil _, rfl⟩
  | cons c rest =>
    have hc := (hr c rfl).1
    rw [List.takeWhile_cons_of_neg (by rw [hc]; exact Bool.false_ne_true),
      List.dropWhile_cons_of_neg (by rw [hc]; exact Bool.false_ne_true)]
    exact ⟨List.append_nil _, rfl⟩

/-- Seconds and a fraction are read off the front of a text. -/
theorem secondsAtStart_padded {s us : Nat} (hs : s < 100) (hus : us < 1000000)
    {rest : List Char} (hr : Ends rest) :
    secondsAtStart (':' :: padded 2 s ++ ((if us = 0 then [] else '.' :: padded 6 us) ++ rest)) =
      some (s, us, rest) := by
  have htwo := fun more => twoDigits?_padded hs more
  unfold secondsAtStart
  simp only [List.cons_append, htwo, Option.bind_eq_bind, Option.bind_some]
  by_cases h0 : us = 0
  · subst h0
    rw [if_pos rfl, List.nil_append]
    cases rest with
    | nil => rfl
    | cons c rest =>
      obtain ⟨-, hp, hc⟩ := hr c rfl
      simp only [hp, hc, decide_false, Bool.or_self, Bool.false_eq_true, if_false]
  · rw [if_neg h0]
    obtain ⟨htake, hdrop⟩ := takeWhile_digits (padded_digits 6 us) hr
    have hlen : (padded 6 us).length = 6 := padded_length hus (by decide)
    have hne : (padded 6 us).isEmpty = false := by
      rw [List.isEmpty_eq_false_iff, ← List.length_pos_iff, hlen]
      decide
    have hmicros : fractionMicros (padded 6 us) = us := by
      unfold fractionMicros
      rw [List.take_left' hlen, digitsValue?_padded hus (by decide)]
      rfl
    simp only [List.cons_append, decide_true, Bool.true_or, if_true, htake, hdrop, hne,
      Bool.false_eq_true, if_false, hmicros]

/-- An offset of whole minutes is read. -/
theorem offsetAtEnd?_offsetText {o : Int} (hlt : o.natAbs < 86400000000)
    (hmin : o % 60000000 = 0) : offsetAtEnd? (offsetText o) = some (some o) := by
  have hh : o.natAbs / 1000000 / 3600 < 100 := by omega
  have hm : o.natAbs / 1000000 / 60 % 60 < 100 := by omega
  have hclock : clockText o.natAbs false =
      padded 2 (o.natAbs / 1000000 / 3600) ++ ':' :: padded 2 (o.natAbs / 1000000 / 60 % 60) := by
    have hs : o.natAbs / 1000000 % 60 = 0 := by omega
    have hus : o.natAbs % 1000000 = 0 := by omega
    unfold clockText
    simp [hs, hus]
  have hval : ∀ negative, signedOffset? negative (clockText o.natAbs false) =
      some ((if negative then -1 else 1) *
        ((o.natAbs / 1000000 / 3600 * 60 + o.natAbs / 1000000 / 60 % 60 : Nat) : Int) * minute) := by
    intro negative
    have hlast := twoDigits?_padded hm []
    rw [List.append_nil] at hlast
    have hm' : ¬ 60 ≤ o.natAbs / 1000000 / 60 % 60 := by omega
    have hh' : ¬ 24 ≤ o.natAbs / 1000000 / 3600 := by omega
    rw [hclock]
    unfold signedOffset?
    simp only [twoDigits?_padded hh, Option.bind_eq_bind, Option.bind_some, hlast, hm', hh',
      bne_self_eq_false, decide_false, Bool.or_self, Bool.false_eq_true, if_false]
  unfold offsetText
  by_cases hneg : o < 0
  · rw [if_pos hneg]
    show (signedOffset? true (clockText o.natAbs false)).map some = _
    rw [hval, Option.map_some]
    simp only [if_true, minute, second]
    congr 2
    omega
  · rw [if_neg hneg]
    show (signedOffset? false (clockText o.natAbs false)).map some = _
    rw [hval, Option.map_some]
    simp only [Bool.false_eq_true, if_false, minute, second]
    congr 2
    omega

/-! ### Whole texts -/

/-- The offset of a moment, if it is known, is a whole number of minutes. -/
def WholeMinutes (m : Moment) : Prop := ∀ o ∈ m.offset, o % 60000000 = 0

/-- No digit starts the text of an offset that may be missing. -/
theorem ends_offset (m : Moment) : Ends ((m.offset.map offsetText).getD []) := by
  cases ho : m.offset with
  | none => exact fun c hc => absurd hc (by simp)
  | some o =>
    intro c hc
    have hsign : c = '-' ∨ c = '+' := by
      simp only [Option.map_some, Option.getD_some, offsetText, List.head?_cons, Option.mem_def,
        Option.some.injEq] at hc
      split at hc
      · exact Or.inl hc.symm
      · exact Or.inr hc.symm
    rcases hsign with rfl | rfl <;> decide

/-- The text of an offset that may be missing is read to the end. -/
theorem offsetAtEnd?_iso {m : Moment} (h : m.IsValid) (hmin : WholeMinutes m) :
    offsetAtEnd? ((m.offset.map offsetText).getD []) = some m.offset := by
  cases ho : m.offset with
  | none => rfl
  | some o => exact offsetAtEnd?_offsetText (h.offset_lt o ho) (hmin o ho)

/-- The characters of a moment's date and time with something behind them. -/
def charsWith (m : Moment) (rest : List Char) : List Char :=
  dateText m.date ++ 'T' :: (clockText (m.reading % day).toNat true ++ rest)

/-- The characters of a moment's text. -/
def isoChars (m : Moment) : List Char := charsWith m ((m.offset.map offsetText).getD [])

/-- Date and time are found at the start of a text, and the offset as far as the rest can be read. -/
theorem momentOfText?_charsWith {m : Moment} (h : m.IsValid) {rest : List Char}
    (hends : Ends rest) : momentOfText? (charsWith m rest) =
      (offsetAtEnd? rest).map (Written.mk m.date m.timeOfDay ·) := by
  have hvalid : m.date.isValid = true := date_isValid h
  have hlt : (m.reading % day).toNat < 86400000000 := by
    have : m.reading % day < 86400000000 := Int.emod_lt_of_pos _ (by decide)
    omega
  unfold charsWith
  generalize hus : (m.reading % day).toNat = us at hlt
  have hh : us / 1000000 / 3600 < 100 := by omega
  have hm : us / 1000000 / 60 % 60 < 100 := by omega
  have hs : us / 1000000 % 60 < 100 := by omega
  have hf : us % 1000000 < 1000000 := by omega
  have htime : m.timeOfDay = ⟨us / 1000000 / 3600, us / 1000000 / 60 % 60, us / 1000000 % 60,
      us % 1000000⟩ := by
    rw [← hus]
    rfl
  have hclock : ∀ rest, clockText us true ++ rest = padded 2 (us / 1000000 / 3600) ++
      ':' :: (padded 2 (us / 1000000 / 60 % 60) ++ (':' :: padded 2 (us / 1000000 % 60) ++
        ((if us % 1000000 = 0 then [] else '.' :: padded 6 (us % 1000000)) ++ rest))) := by
    intro rest
    simp [clockText]
  have hok := timeOfDay_isValid m
  rw [htime] at hok ⊢
  unfold momentOfText?
  simp only [dateAtStart_dateText hvalid, Except.toOption, Option.bind_eq_bind, Option.bind_some,
    hclock, twoDigits?_padded hh, twoDigits?_padded hm, secondsAtStart_padded hs hf hends, hok,
    if_true]
  cases offsetAtEnd? rest <;> rfl

/-- Date and time are found in the text of a moment, and the offset as far as its text can be read. -/
theorem momentOfText?_isoChars {m : Moment} (h : m.IsValid) : momentOfText? (isoChars m) =
    (offsetAtEnd? ((m.offset.map offsetText).getD [])).map (Written.mk m.date m.timeOfDay ·) :=
  momentOfText?_charsWith h (ends_offset m)

theorem charsWith_lt (m : Moment) {rest : List Char} (hrest : ∀ c ∈ rest, c.toNat < 128) :
    ∀ c ∈ charsWith m rest, c.toNat < 128 := by
  intro c hc
  simp only [charsWith, dateText, List.append_assoc, List.cons_append, List.mem_append,
    List.mem_cons] at hc
  rcases hc with hc | rfl | hc | rfl | hc | rfl | hc | hc
  · exact padded_lt c hc
  · decide
  · exact padded_lt c hc
  · decide
  · exact padded_lt c hc
  · decide
  · exact clockText_lt _ _ c hc
  · exact hrest c hc

/-- A text that starts with a moment's date and time and ends with its offset is read as the moment.
-/
theorem momentOfString_charsWith {m : Moment} (h : m.IsValid) {rest : List Char}
    (hends : Ends rest) (hrest : ∀ c ∈ rest, c.toNat < 128)
    (hoffset : offsetAtEnd? rest = some m.offset) :
    momentOfString (String.ofList (charsWith m rest)) = .ok m := by
  have hyear : m.date.year ≠ 0 := by
    have hvalid := date_isValid h
    simp only [Date.isValid, Bool.and_eq_true, decide_eq_true_eq] at hvalid
    omega
  have hback : Moment.ofParts m.date m.timeOfDay m.offset = m := by
    unfold Moment.ofParts
    rw [reading_eq h]
  unfold momentOfString
  simp only [bytesOf_ofList (charsWith_lt m hrest), momentOfText?_charsWith h hends, hoffset,
    Option.map_some, Written.moment, hyear, if_false, hback]

theorem offset_lt (m : Moment) : ∀ c ∈ (m.offset.map offsetText).getD [], c.toNat < 128 := by
  intro c hc
  cases ho : m.offset with
  | none =>
    rw [ho] at hc
    exact absurd hc List.not_mem_nil
  | some o =>
    rw [ho] at hc
    exact offsetText_lt o c hc

theorem isoChars_lt (m : Moment) : ∀ c ∈ isoChars m, c.toNat < 128 := charsWith_lt m (offset_lt m)

/-- The bytes of a moment's text are its characters. -/
theorem bytesOf_iso (m : Moment) : bytesOf m.iso = isoChars m := by
  rw [iso_eq]
  exact bytesOf_ofList (isoChars_lt m)

/-- **A moment is read from its text**, if its offset is a whole number of minutes. -/
theorem momentOfString_iso {m : Moment} (h : m.IsValid) (hmin : WholeMinutes m) :
    momentOfString m.iso = .ok m := by
  rw [iso_eq]
  exact momentOfString_charsWith h (ends_offset m) (offset_lt m) (offsetAtEnd?_iso h hmin)

/-- The offset as sent to clients is written as in full, unless it is zero. -/
theorem wireOffset_eq {o : Int} (hne : o ≠ 0) (hmin : o % 60000000 = 0) :
    Moment.wireOffset o = offsetText o := by
  have hs : o.natAbs / 1000000 % 60 = 0 := by omega
  have hus : o.natAbs % 1000000 = 0 := by omega
  have hhours : o.natAbs / 60000000 / 60 = o.natAbs / 1000000 / 3600 := by omega
  have hminutes : o.natAbs / 60000000 % 60 = o.natAbs / 1000000 / 60 % 60 := by omega
  unfold Moment.wireOffset offsetText clockText
  rw [if_neg hne]
  simp [hs, hus, hhours, hminutes]

/-- **A moment is read from the text that is sent to clients**, if its offset is a whole number of
minutes. -/
theorem momentOfString_wire {m : Moment} (h : m.IsValid) (hmin : WholeMinutes m) :
    momentOfString m.wire = .ok m := by
  have hwire : m.wire = String.ofList (charsWith m ((m.offset.map Moment.wireOffset).getD [])) := by
    simp only [Moment.wire, Moment.localText, charsWith, dateText, List.append_assoc,
      List.cons_append]
  by_cases hzero : m.offset = some 0
  · rw [hwire, hzero]
    refine momentOfString_charsWith h ?_ (List.forall_mem_singleton.2 (by decide))
      (by rw [hzero]; rfl)
    intro c hc
    obtain rfl := Option.some.inj hc
    decide
  · have hsame : (m.offset.map Moment.wireOffset).getD [] =
        (m.offset.map offsetText).getD [] := by
      cases ho : m.offset with
      | none => rfl
      | some o =>
        have hne : o ≠ 0 := by
          rintro rfl
          exact hzero ho
        exact wireOffset_eq hne (hmin o ho)
    have hiso : m.wire = m.iso := by
      rw [hwire, hsame, iso_eq]
      rfl
    rw [hiso]
    exact momentOfString_iso h hmin

/-! ### Offsets that are not read -/

/-- An offset with a part of a minute is not read. -/
theorem offsetAtEnd?_of_part {o : Int} (hlt : o.natAbs < 86400000000) (hpart : o % 60000000 ≠ 0) :
    offsetAtEnd? (offsetText o) = none := by
  have hh : o.natAbs / 1000000 / 3600 < 100 := by omega
  have hm : o.natAbs / 1000000 / 60 % 60 < 100 := by omega
  have hsome : (o.natAbs / 1000000 % 60 != 0 || o.natAbs % 1000000 != 0) = true := by
    simp only [Bool.or_eq_true, bne_iff_ne, ne_eq]
    omega
  obtain ⟨more, hclock⟩ : ∃ more, clockText o.natAbs false =
      padded 2 (o.natAbs / 1000000 / 3600) ++
        ':' :: (padded 2 (o.natAbs / 1000000 / 60 % 60) ++ ':' :: more) := by
    refine ⟨padded 2 (o.natAbs / 1000000 % 60) ++
      (if o.natAbs % 1000000 = 0 then [] else '.' :: padded 6 (o.natAbs % 1000000)), ?_⟩
    unfold clockText
    simp [hsome]
  have hnone : ∀ negative, signedOffset? negative (clockText o.natAbs false) = none := by
    intro negative
    rw [hclock]
    unfold signedOffset?
    simp [twoDigits?_padded hh, twoDigits?_padded hm]
  unfold offsetText
  by_cases hneg : o < 0
  · rw [if_pos hneg]
    show (signedOffset? true (clockText o.natAbs false)).map some = none
    rw [hnone, Option.map_none]
  · rw [if_neg hneg]
    show (signedOffset? false (clockText o.natAbs false)).map some = none
    rw [hnone, Option.map_none]

/-- A text of digits that goes on with a dash is no count. -/
theorem countOfText?_dash {ds : List Char} (hne : ds ≠ []) (hdigits : ∀ c ∈ ds, c.isDigit = true)
    (rest : List Char) : countOfText? (ds ++ '-' :: rest) = none := by
  have hdrop : (ds ++ '-' :: rest).dropWhile Char.isDigit = '-' :: rest := by
    rw [List.dropWhile_append_of_pos hdigits]
    rfl
  obtain ⟨c, cs, rfl⟩ := List.exists_cons_of_ne_nil hne
  have hc : c.isDigit = true := hdigits c List.mem_cons_self
  have hminus : c ≠ '-' := by
    rintro rfl
    exact absurd hc (by decide)
  have hplus : c ≠ '+' := by
    rintro rfl
    exact absurd hc (by decide)
  rw [List.cons_append] at hdrop ⊢
  unfold countOfText?
  split
  rename_i negative bare heq
  split at heq
  · rename_i r hcons
    exact absurd (List.cons.inj hcons).1 hminus
  · rename_i r hcons
    exact absurd (List.cons.inj hcons).1 hplus
  · cases heq
    rw [hdrop]
    rfl

/-- The text of a moment is no count. -/
theorem countOfText?_isoChars {m : Moment} (h : m.IsValid) : countOfText? (isoChars m) = none := by
  have hlen : (padded 4 m.date.year).length = 4 :=
    padded_length (Date.year_lt (date_isValid h)) (by decide)
  have hne : padded 4 m.date.year ≠ [] := List.ne_nil_of_length_pos (by omega)
  simp only [isoChars, charsWith, dateText, List.append_assoc, List.cons_append]
  exact countOfText?_dash hne (padded_digits 4 m.date.year) _

/-- **What is read from a moment's text is the moment**, or nothing is. -/
theorem momentOfString_of_iso {m m' : Moment} (h : m.IsValid)
    (hread : momentOfString m.iso = .ok m') : m' = m := by
  by_cases hmin : WholeMinutes m
  · rw [momentOfString_iso h hmin] at hread
    cases hread
    rfl
  · exfalso
    unfold WholeMinutes at hmin
    push Not at hmin
    obtain ⟨o, ho, hpart⟩ := hmin
    have hnone : momentOfText? (isoChars m) = none := by
      rw [momentOfText?_isoChars h, show m.offset = some o from ho, Option.map_some,
        Option.getD_some, offsetAtEnd?_of_part (h.offset_lt o ho) hpart]
      rfl
    have hdate : dateAtStart (isoChars m) = .ok (m.date, 'T' ::
        (clockText (m.reading % day).toNat true ++ (m.offset.map offsetText).getD [])) :=
      dateAtStart_dateText (date_isValid h) _
    unfold momentOfString at hread
    simp only [bytesOf_iso, hnone, countOfText?_isoChars h, Option.map_none] at hread
    unfold dateOfString at hread
    simp only [hdate, countOfText?_isoChars h, Option.filter_none, Option.map_none] at hread
    cases hread

/-- A moment that universal time can show is stamped with it. -/
theorem universal_spec {m : Moment} (h : m.IsValid) (hu : m.assumeUtc.toUtc.isSome = true) :
    m.universal.IsValid ∧ m.universal.offset = some 0 := by
  obtain ⟨u, hu⟩ := Option.isSome_iff_exists.1 hu
  unfold Moment.universal
  rw [hu]
  exact ⟨toUtc_isValid (assumeUtc_isValid h) hu, (toUtc_eq hu).1⟩

end Decode
end Cadence
