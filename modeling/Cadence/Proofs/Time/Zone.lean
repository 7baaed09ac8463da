/-
# Clocks of zones show what is not near the ends of time

No zone is a day or more away from universal time: that can be read off the offsets that are listed
(`records_isShort`), and a zone's clock has no others (`decode_offsetAt`). So a moment of the years
2 to 9998 has a reading in every zone (`inZone?_eq_some`), and looking at it there never leaves the
years that clocks show. What a clock shows depends on the instant alone (`Moment.seenAt`).

Key definitions: `Record.isShort`, `Moment.seenAt`, `Moment.IsInner`, `Moment.IsPresent`.
Key theorems: `records_isShort`, `lookup_offsetAt`, `inZone?_eq_some`.
-/
import Cadence.Proofs.Time.Order
import Cadence.Time.Zone.Directory

namespace Cadence
namespace Time

/-! ### The offsets of a zone -/

/-- Whether an offset in seconds is less than a day. -/
def isShort (offset : Int) : Bool := offset.natAbs < 86400

namespace Tail

/-- Whether the offsets that hold for ever are less than a day. -/
def isShort : Tail → Bool
  | steady offset => Time.isShort offset
  | yearly standard summer _ => Time.isShort standard && Time.isShort summer

theorem isShort_offsetAt {t : Tail} (h : t.isShort = true) (year : Nat) (at_ : Int) :
    Time.isShort (t.offsetAt year at_) = true := by
  cases t with
  | steady offset => exact h
  | yearly standard summer rule =>
    obtain ⟨hstandard, hsummer⟩ := Bool.and_eq_true_iff.1 h
    show Time.isShort (if rule.isSummer standard summer year at_ then summer else standard) = true
    split
    · exact hsummer
    · exact hstandard

end Tail

/-- The offset at an instant is the one before all changes, that of a change or the last one. -/
theorem Change.offsetAt_mem (at_ after : Int) : ∀ (before : Int) (changes : List Change),
    Change.offsetAt at_ after before changes = before ∨
      Change.offsetAt at_ after before changes = after ∨
      ∃ c ∈ changes, Change.offsetAt at_ after before changes = c.offset
  | before, [] => Or.inr (Or.inl rfl)
  | before, c :: rest => by
    unfold Change.offsetAt
    by_cases hlt : at_ < c.instant
    · rw [if_pos hlt]
      exact Or.inl rfl
    · rw [if_neg hlt]
      rcases Change.offsetAt_mem at_ after c.offset rest with heq | heq | ⟨c', hc', heq⟩
      · exact Or.inr (Or.inr ⟨c, List.mem_cons_self, heq⟩)
      · exact Or.inr (Or.inl heq)
      · exact Or.inr (Or.inr ⟨c', List.mem_cons_of_mem _ hc', heq⟩)

namespace Record

/-- Whether all offsets of a record are less than a day. -/
def isShort (r : Record) : Bool := r.offsets.all Time.isShort && r.tail.isShort

/-- The changes of a record go to offsets of its list. -/
theorem decodeChanges_isShort {offsets : List Int} (h : offsets.all Time.isShort = true) :
    ∀ (text : List Char) (last : Int) (digits : Nat),
      ∀ c ∈ decodeChanges offsets last digits text, Time.isShort c.offset = true
  | [], _, _ => fun c hc => absurd hc List.not_mem_nil
  | letter :: rest, last, digits => by
    unfold decodeChanges
    split
    · exact decodeChanges_isShort h rest _ _
    · intro c hc
      rcases List.mem_cons.1 hc with rfl | hc
      · cases hget : offsets[letter.toNat - 'A'.toNat]? with
        | none => rfl
        | some offset => exact List.all_eq_true.1 h offset (List.mem_of_getElem? hget)
      · exact decodeChanges_isShort h rest _ _ c hc

theorem decode_offsetAt {r : Record} (h : r.isShort = true) (at_ : Int) :
    Time.isShort (r.decode.offsetAt at_) = true := by
  obtain ⟨hoffsets, htail⟩ := Bool.and_eq_true_iff.1 h
  have hfirst : Time.isShort (r.offsets.headD 0) = true := by
    cases hlist : r.offsets with
    | nil => rfl
    | cons offset rest =>
      exact List.all_eq_true.1 hoffsets offset (by rw [hlist]; exact List.mem_cons_self)
  unfold Zone.offsetAt
  rcases Change.offsetAt_mem at_ _ r.decode.first r.decode.changes with heq | heq | ⟨c, hc, heq⟩
  · exact (congrArg Time.isShort heq).trans hfirst
  · exact (congrArg Time.isShort heq).trans (Tail.isShort_offsetAt htail _ at_)
  · exact (congrArg Time.isShort heq).trans (decodeChanges_isShort hoffsets _ _ _ c hc)

end Record

/-- **No listed zone is a day or more away from universal time.** -/
theorem records_isShort : Zones.records.all Record.isShort = true := by
  decide +kernel

/-- A zone that is found by its name is less than a day away from universal time. -/
theorem lookup_offsetAt {name : String} {z : Zone} (h : Zones.lookup name = .ok z) (at_ : Int) :
    isShort (z.offsetAt at_) = true := by
  have hfile : ∀ folder file, Zones.lookupIn name folder file = .ok z →
      isShort (z.offsetAt at_) = true := by
    intro folder file hfile
    unfold Zones.lookupIn at hfile
    dsimp only at hfile
    split at hfile
    · cases hfile
    · split at hfile
      · cases hfile
      · split at hfile
        · rename_i z' hfind
          cases hfile
          obtain ⟨r, hr, rfl⟩ := Option.map_eq_some_iff.1 hfind
          exact Record.decode_offsetAt
            (List.all_eq_true.1 records_isShort r (List.mem_of_find?_eq_some hr)) at_
        · split at hfile
          · cases hfile
          · split at hfile <;> cases hfile
  unfold Zones.lookup at h
  dsimp only at h
  split at h
  · cases h
  · split at h
    · cases h
    · split at h
      · exact hfile _ _ h
      · split at h <;> cases h

/-! ### Years that no clock of a zone leaves -/

namespace Moment

/-- The instant of a moment, as a reading of universal time. A moment without an offset is one. -/
def instant (m : Moment) : Int := m.reading - m.offset.getD 0

/-- The moment on a clock that is some seconds away from universal time. -/
def seenAt (m : Moment) (offset : Int) : Moment :=
  ⟨m.instant + offset * second, some (offset * second)⟩

theorem instant?_assumeUtc (m : Moment) : m.assumeUtc.instant? = some m.instant := by
  rcases m with ⟨reading, _ | o⟩
  · simp [assumeUtc, instant?, instant]
  · rfl

/-- A moment of the years 2 to 9998. -/
structure IsInner (m : Moment) : Prop where
  valid : m.IsValid
  since : 2 ≤ m.date.year
  until_ : m.date.year ≤ 9998

/-- Such a moment is almost a year away from both ends of time. -/
theorem IsInner.reading {m : Moment} (h : m.IsInner) :
    365 * day ≤ m.reading ∧ m.reading < 3651695 * day := by
  have hyear : m.date.year = yearOf m.dayNumber := rfl
  have hsince := h.since
  have huntil := h.until_
  rw [hyear] at hsince huntil
  obtain ⟨hstart, hend⟩ := yearOf_spec m.dayNumber
  have hlength : daysInYear (yearOf m.dayNumber) ≤ 366 := by
    unfold daysInYear
    split <;> omega
  have hlow : daysBeforeYear 2 ≤ daysBeforeYear (yearOf m.dayNumber) :=
    daysBeforeYear_le (by decide) hsince
  have hhigh : daysBeforeYear (yearOf m.dayNumber) ≤ daysBeforeYear 9998 :=
    daysBeforeYear_le (one_le_yearOf _) huntil
  rw [show daysBeforeYear 2 = 365 from rfl] at hlow
  rw [show daysBeforeYear 9998 = 3651329 from rfl] at hhigh
  have hday : m.dayNumber = (m.reading / day).toNat := rfl
  unfold day second at *
  omega

/-- Clocks less than a day away from universal time show it later than the first day. -/
theorem IsInner.seen {m : Moment} (h : m.IsInner) {offset : Int} (ho : isShort offset = true) :
    day ≤ (m.seenAt offset).reading ∧ (m.seenAt offset).reading < endOfTime := by
  obtain ⟨hlow, hhigh⟩ := h.reading
  have hown : (m.offset.getD 0).natAbs < 86400000000 := by
    cases hm : m.offset with
    | none => decide
    | some o => exact h.valid.offset_lt o hm
  have hshort : offset.natAbs < 86400 := of_decide_eq_true ho
  unfold seenAt instant endOfTime day second at *
  dsimp only
  omega

theorem IsInner.shows {m : Moment} (h : m.IsInner) {offset : Int} (ho : isShort offset = true) :
    shows (m.seenAt offset).reading = true := by
  obtain ⟨hlow, hhigh⟩ := h.seen ho
  simp only [Moment.shows, Bool.and_eq_true, decide_eq_true_eq]
  exact ⟨Int.le_trans (by decide) hlow, hhigh⟩

end Moment

/-- **A moment of the years 2 to 9998 has a reading in every zone.** -/
theorem inZone?_eq_some {m : Moment} (h : m.IsInner) {name : String} {z : Zone}
    (hz : Zones.lookup name = .ok z) :
    m.inZone? z = some (m.seenAt (z.offsetAt (m.instant / second))) := by
  have hutc : Moment.shows (m.instant + 0 * second) = true := h.shows rfl
  have hlocal := h.shows (lookup_offsetAt hz (m.instant / second))
  rw [Int.zero_mul, Int.add_zero] at hutc
  unfold Moment.seenAt Moment.instant at *
  unfold Moment.inZone? Moment.atOffset
  simp only [hutc, hlocal, Bool.and_self, if_true]

/-! ### The present -/

/-- A moment of the years 2000 to 2100 on a clock whose offset is known. -/
structure Moment.IsPresent (m : Moment) : Prop where
  valid : m.IsValid
  known : m.offset.isSome = true
  since : 2000 ≤ m.date.year
  until_ : m.date.year ≤ 2100

theorem Moment.IsPresent.inner {m : Moment} (h : m.IsPresent) : m.IsInner :=
  ⟨h.valid, Nat.le_trans (by decide) h.since, Nat.le_trans h.until_ (by decide)⟩

end Time
end Cadence
