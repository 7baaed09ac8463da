/-
# Small letters stay small

What `lower` writes it leaves alone when it comes back to it (`lower_idem`), and a trimmed text is
still trimmed in small letters (`trim_lower_trim`). Both hold because a character either stays as
it is or becomes one that no table speaks of: no capital, no blank and no stand-in for a half of a
pair. `lowerRuns_apart` checks that on the table, run by run.

Key definitions: `LowerRun.lowered`, `barred`, `IsSmall`.
Key theorems: `lowerRuns_apart`, `mem_lowerAt`, `lower_idem`, `trim_lower_trim`, `isIn_lower`.
-/
import Cadence.Text.Blank
import Cadence.Text.Half
import Cadence.Text.Lower
import Mathlib.Tactic.Common

namespace Cadence
namespace Text

/-! ### The table -/

namespace LowerRun

/-- Where the characters of a run go. -/
def lowered (r : LowerRun) : LowerRun :=
  ⟨(r.first + r.shift).toNat, (r.last + r.shift).toNat, r.step, 0⟩

/-- Whether it is plain that two runs share no code point: one ends before the other starts, they
take turns, or one is a single point that the other leaves out. -/
def apart (r r' : LowerRun) : Bool :=
  Nat.blt r.last r'.first || Nat.blt r'.last r.first ||
    (r.step == 2 && r'.step == 2 && (r.first + r'.first) % 2 == 1) ||
    (r.first == r.last && !r'.mem r.first) || (r'.first == r'.last && !r.mem r'.first)

theorem mem_iff {r : LowerRun} {n : Nat} :
    r.mem n = true ↔ r.first ≤ n ∧ n ≤ r.last ∧ (n - r.first) % r.step = 0 := by
  simp [mem, and_assoc]

theorem not_mem_of_apart {r r' : LowerRun} {n : Nat} (h : r.apart r' = true)
    (hr : r.mem n = true) : r'.mem n = false := by
  obtain ⟨h1, h2, h3⟩ := mem_iff.1 hr
  rw [← Bool.not_eq_true]
  intro hr'
  obtain ⟨h1', h2', h3'⟩ := mem_iff.1 hr'
  simp only [apart, Bool.or_eq_true, Bool.and_eq_true, Nat.blt_eq, beq_iff_eq,
    Bool.not_eq_true'] at h
  rcases h with (((h | h) | ⟨⟨hs, hs'⟩, h⟩) | ⟨h, hno⟩) | ⟨h, hno⟩
  · omega
  · omega
  · rw [hs] at h3
    rw [hs'] at h3'
    omega
  · rw [show r.first = n by omega, hr'] at hno
    cases hno
  · rw [show r'.first = n by omega, hr] at hno
    cases hno

theorem mem_lowered {r : LowerRun} {n : Nat} (h : 0 ≤ r.first + r.shift) (hr : r.mem n = true) :
    r.lowered.mem (n + r.shift).toNat = true := by
  obtain ⟨h1, h2, h3⟩ := mem_iff.1 hr
  have heq : (n + r.shift).toNat - (r.first + r.shift).toNat = n - r.first := by omega
  refine mem_iff.2 ⟨?_, ?_, ?_⟩
  · show (r.first + r.shift).toNat ≤ _
    omega
  · show _ ≤ (r.last + r.shift).toNat
    omega
  · show ((n + r.shift).toNat - (r.first + r.shift).toNat) % r.step = 0
    rw [heq]
    exact h3

end LowerRun

/-- What no small letter is: a character that is lowered, half a pair or the stand-in of one, or a
blank. -/
def barred : List LowerRun :=
  lowerRuns ++ ⟨0x130, 0x130, 1, 0⟩ :: ⟨0xd800, 0xdfff, 1, 0⟩ :: ⟨0xed800, 0xedfff, 1, 0⟩ ::
    blankRanges.map fun (first, last) => ⟨first, last, 1, 0⟩

/-- **No run is lowered onto anything barred.** -/
theorem lowerRuns_apart : ∀ r ∈ lowerRuns, ∀ r' ∈ barred, r.lowered.apart r' = true := by
  have h : (barred.all fun r' => (lowerRuns.map LowerRun.lowered).all (·.apart r')) = true := by
    decide +kernel
  intro r hr r' hr'
  exact List.all_eq_true.1 (List.all_eq_true.1 h r' hr') _ (List.mem_map_of_mem hr)

theorem lowerRuns_inRange : ∀ r ∈ lowerRuns,
    0 ≤ r.first + r.shift ∧ r.last + r.shift < 0x110000 := by
  decide +kernel

/-! ### Characters -/

/-- A small letter: nothing that is barred. -/
def IsSmall (c : Char) : Prop := ∀ r ∈ barred, r.mem c.toNat = false

/-- A character that is written in small letters as it is. -/
def IsLowered (c : Char) : Prop := c.toNat ≠ 0x130 ∧ ∀ r ∈ lowerRuns, r.mem c.toNat = false

theorem mem_single {a b n : Nat} :
    LowerRun.mem ⟨a, b, 1, 0⟩ n = false ↔ ¬(a ≤ n ∧ n ≤ b) := by
  rw [← Bool.not_eq_true, LowerRun.mem_iff]
  simp [Nat.mod_one]

/-- What is found in ranges lies in one of them. -/
theorem Ranges.exists_of_mem {n : Nat} : ∀ {ranges : Ranges}, ranges.mem n = true →
    ∃ p ∈ ranges, p.1 ≤ n ∧ n ≤ p.2
  | [], h => by cases h
  | (lo, hi) :: rest, h => by
    unfold Ranges.mem at h
    split at h
    · cases h
    · rcases Bool.or_eq_true_iff.1 h with hhi | hrest
      · exact ⟨(lo, hi), List.mem_cons_self, by omega, of_decide_eq_true hhi⟩
      · obtain ⟨p, hp, hle⟩ := Ranges.exists_of_mem hrest
        exact ⟨p, List.mem_cons_of_mem _ hp, hle⟩

namespace IsSmall

variable {c : Char}

theorem isLowered (h : IsSmall c) : IsLowered c := by
  refine ⟨?_, fun r hr => h r (List.mem_append_left _ hr)⟩
  have h' := mem_single.1 (h _ (List.mem_append_right _ List.mem_cons_self))
  omega

theorem not_isStandIn (h : IsSmall c) : Half.isStandIn c = false := by
  have h' := mem_single.1 (h ⟨0xed800, 0xedfff, 1, 0⟩ (List.mem_append_right _ (by simp)))
  simp only [Half.isStandIn, Bool.and_eq_false_iff, decide_eq_false_iff_not]
  omega

theorem not_isBlank (h : IsSmall c) : isBlank c = false := by
  rw [← Bool.not_eq_true]
  intro hblank
  obtain ⟨p, hp, hle⟩ := Ranges.exists_of_mem hblank
  refine mem_single.1 (h ⟨p.1, p.2, 1, 0⟩ (List.mem_append_right _ ?_)) hle
  simp only [List.mem_cons]
  exact Or.inr (Or.inr (Or.inr (List.mem_map_of_mem hp)))

end IsSmall

/-- **A blank stays what it is**: no run of the table has one. -/
theorem isLowered_of_isBlank {c : Char} (h : isBlank c = true) : IsLowered c := by
  have hapart : (blankRanges.all fun p => (⟨0x130, 0x130, 1, 0⟩ :: lowerRuns).all
      (LowerRun.apart ⟨p.1, p.2, 1, 0⟩)) = true := by
    decide +kernel
  obtain ⟨p, hp, hle⟩ := Ranges.exists_of_mem h
  have hmem : LowerRun.mem ⟨p.1, p.2, 1, 0⟩ c.toNat = true :=
    LowerRun.mem_iff.2 ⟨hle.1, hle.2, Nat.mod_one _⟩
  have hout : ∀ r ∈ ⟨0x130, 0x130, 1, 0⟩ :: lowerRuns, r.mem c.toNat = false := fun r hr =>
    LowerRun.not_mem_of_apart (List.all_eq_true.1 (List.all_eq_true.1 hapart p hp) r hr) hmem
  have hdotted := mem_single.1 (hout _ List.mem_cons_self)
  exact ⟨by omega, fun r hr => hout r (List.mem_cons_of_mem _ hr)⟩

/-- A run lowers its characters to small letters. -/
theorem isSmall_of_run {r : LowerRun} (hr : r ∈ lowerRuns) {n : Nat} (hn : r.mem n = true) :
    IsSmall (Char.ofNat (n + r.shift).toNat) := by
  obtain ⟨hlo, hhi⟩ := lowerRuns_inRange r hr
  have hmem := LowerRun.mem_lowered hlo hn
  have hout : ∀ r' ∈ barred, r'.mem (n + r.shift).toNat = false :=
    fun r' hr' => LowerRun.not_mem_of_apart (lowerRuns_apart r hr r' hr') hmem
  have hpair := mem_single.1 (hout ⟨0xd800, 0xdfff, 1, 0⟩ (List.mem_append_right _ (by simp)))
  have hle := (LowerRun.mem_iff.1 hn).2.1
  have hvalid : (n + r.shift).toNat.isValidChar := by
    unfold Nat.isValidChar
    omega
  have hnat : (Char.ofNat (n + r.shift).toNat).toNat = (n + r.shift).toNat := by
    unfold Char.ofNat
    rw [dif_pos hvalid]
    rfl
  intro r' hr'
  rw [hnat]
  exact hout r' hr'

/-- **What a character becomes** is a small letter, or the character itself if it stays. -/
theorem mem_lowerAt {before after : List Char} {c d : Char} (h : d ∈ lowerAt before c after) :
    IsSmall d ∨ d = c ∧ IsLowered c := by
  unfold lowerAt at h
  split at h
  · refine Or.inl ?_
    rcases List.mem_cons.1 h with rfl | h
    · exact (by decide +kernel : ∀ r ∈ barred, r.mem 'i'.toNat = false)
    · rw [List.mem_singleton.1 h]
      exact (by decide +kernel : ∀ r ∈ barred, r.mem 0x307 = false)
  · rename_i h130
    split at h
    · refine Or.inl ?_
      rw [List.mem_singleton.1 h]
      split
      · exact (by decide +kernel : ∀ r ∈ barred, r.mem 0x3c2 = false)
      · exact (by decide +kernel : ∀ r ∈ barred, r.mem 0x3c3 = false)
    · rw [List.mem_singleton.1 h]
      unfold lowerChar
      split
      · rename_i r hr
        have hmem : r.mem c.toNat = true := by simpa using List.find?_some hr
        exact Or.inl (isSmall_of_run (List.mem_of_find?_eq_some hr) hmem)
      · rename_i hr
        rw [List.find?_eq_none] at hr
        exact Or.inr ⟨rfl, h130, fun r hmem => by simpa using hr r hmem⟩

theorem lowerAt_of_isLowered {c : Char} (h : IsLowered c) (before after : List Char) :
    lowerAt before c after = [c] := by
  have hsigma : c.toNat ≠ 0x3a3 := by
    intro heq
    have hno := h.2 ⟨0x3a3, 0x3ab, 1, 32⟩ (by decide +kernel)
    rw [heq] at hno
    cases hno
  have hfind : lowerRuns.find? (·.mem c.toNat) = none := by
    rw [List.find?_eq_none]
    intro r hr
    rw [h.2 r hr]
    exact Bool.false_ne_true
  unfold lowerAt lowerChar
  rw [if_neg h.1, if_neg hsigma, hfind]

theorem lowerAt_ne_nil (before after : List Char) (c : Char) : lowerAt before c after ≠ [] := by
  unfold lowerAt
  split
  · exact List.cons_ne_nil _ _
  · split <;> exact List.cons_ne_nil _ _

/-! ### Texts -/

theorem mem_lowerFrom {d : Char} : ∀ {cs before : List Char}, d ∈ lowerFrom before cs →
    IsSmall d ∨ d ∈ cs ∧ IsLowered d
  | [], _, h => absurd h List.not_mem_nil
  | c :: cs, before, h => by
    rcases List.mem_append.1 h with h | h
    · rcases mem_lowerAt h with hd | ⟨rfl, hd⟩
      · exact Or.inl hd
      · exact Or.inr ⟨List.mem_cons_self, hd⟩
    · rcases mem_lowerFrom h with hd | ⟨hmem, hd⟩
      · exact Or.inl hd
      · exact Or.inr ⟨List.mem_cons_of_mem _ hmem, hd⟩

theorem lowerFrom_of_isLowered : ∀ {cs : List Char} (before : List Char),
    (∀ c ∈ cs, IsLowered c) → lowerFrom before cs = cs
  | [], _, _ => rfl
  | c :: cs, before, h => by
    rw [lowerFrom, lowerAt_of_isLowered (h c List.mem_cons_self),
      lowerFrom_of_isLowered (c :: before) fun d hd => h d (List.mem_cons_of_mem _ hd)]
    rfl

/-- **Lowering twice is lowering once.** -/
theorem lower_idem (s : String) : lower (lower s) = lower s := by
  have hall : ∀ c ∈ lowerChars s.toList, IsLowered c := by
    intro c hc
    rcases mem_lowerFrom hc with hc | ⟨-, hc⟩
    · exact hc.isLowered
    · exact hc
  unfold lower
  rw [String.toList_ofList]
  exact congrArg String.ofList (lowerFrom_of_isLowered [] hall)

theorem not_isBlank_of_lowerAt {before after : List Char} {c d : Char} (hc : isBlank c = false)
    (hd : d ∈ lowerAt before c after) : isBlank d = false := by
  rcases mem_lowerAt hd with hd | ⟨rfl, -⟩
  · exact hd.not_isBlank
  · exact hc

/-- A text that does not start with a blank does not in small letters. -/
theorem head?_lowerFrom {cs : List Char} (before : List Char)
    (h : ∀ c ∈ cs.head?, isBlank c = false) :
    ∀ c ∈ (lowerFrom before cs).head?, isBlank c = false := by
  cases cs with
  | nil => exact h
  | cons c cs =>
    intro d hd
    rw [lowerFrom, List.head?_append] at hd
    cases hat : (lowerAt before c cs).head? with
    | none => exact absurd (List.head?_eq_none_iff.1 hat) (lowerAt_ne_nil _ _ _)
    | some e =>
      rw [hat, Option.some_or] at hd
      exact not_isBlank_of_lowerAt (h c rfl) (List.mem_of_mem_head? (hat.trans hd))

/-- A text that does not end in a blank does not in small letters. -/
theorem getLast?_lowerFrom : ∀ {cs : List Char} (before : List Char),
    (∀ c ∈ cs.getLast?, isBlank c = false) →
    ∀ c ∈ (lowerFrom before cs).getLast?, isBlank c = false
  | [], _, _ => fun c hc => absurd hc (by simp [lowerFrom])
  | [c], before, h => by
    intro d hd
    rw [lowerFrom, lowerFrom, List.append_nil] at hd
    exact not_isBlank_of_lowerAt (h c rfl) (List.mem_of_mem_getLast? hd)
  | c :: c' :: cs, before, h => by
    have hne : lowerFrom (c :: before) (c' :: cs) ≠ [] := by
      rw [lowerFrom]
      exact List.append_ne_nil_of_left_ne_nil (lowerAt_ne_nil _ _ _) _
    have hend : ∀ e ∈ (c' :: cs).getLast?, isBlank e = false :=
      fun e he => h e (by rwa [List.getLast?_cons_cons])
    have hrest := getLast?_lowerFrom (c :: before) hend
    intro d hd
    rw [lowerFrom, List.getLast?_append] at hd
    cases hat : (lowerFrom (c :: before) (c' :: cs)).getLast? with
    | none => exact absurd (List.getLast?_eq_none_iff.1 hat) hne
    | some e =>
      rw [hat, Option.some_or] at hd
      exact hrest d (hat.trans hd)

/-- Characters are trimmed when neither the first nor the last is blank. -/
theorem trimChars_eq_self {cs : List Char} (hhead : ∀ c ∈ cs.head?, isBlank c = false)
    (hlast : ∀ c ∈ cs.getLast?, isBlank c = false) : trimChars cs = cs := by
  unfold trimChars
  rw [dropWhile_eq_self_of_head hhead, dropWhile_eq_self_of_head, List.reverse_reverse]
  rwa [List.head?_reverse]

theorem head?_trimChars (cs : List Char) : ∀ c ∈ (trimChars cs).head?, isBlank c = false :=
  fun c hc => head?_dropWhile_false isBlank cs c (head?_dropEnd isBlank _ c hc)

theorem getLast?_trimChars (cs : List Char) :
    ∀ c ∈ (trimChars cs).getLast?, isBlank c = false := by
  intro c hc
  rw [trimChars, List.getLast?_reverse] at hc
  exact head?_dropWhile_false isBlank _ c hc

/-- **A trimmed text is still trimmed in small letters.** -/
theorem trim_lower_trim (s : String) : trim (lower (trim s)) = lower (trim s) := by
  unfold trim lower
  rw [String.toList_ofList, String.toList_ofList]
  exact congrArg String.ofList (trimChars_eq_self
    (head?_lowerFrom [] (head?_trimChars s.toList))
    (getLast?_lowerFrom [] (getLast?_trimChars s.toList)))

theorem lower_ne_empty {s : String} (h : s ≠ "") : lower s ≠ "" := by
  intro heq
  have hnil : lowerFrom [] s.toList = [] := by
    have := congrArg String.toList heq
    rwa [lower, String.toList_ofList] at this
  cases hs : s.toList with
  | nil => exact h (String.toList_eq_nil_iff.1 hs)
  | cons c cs =>
    rw [hs, lowerFrom, List.append_eq_nil_iff] at hnil
    exact lowerAt_ne_nil _ _ _ hnil.1

/-! ### Halves of pairs -/

/-- Small letters bring no halves into a text. -/
theorem isIn_lower {s : String} (h : Half.isIn s = false) : Half.isIn (lower s) = false := by
  unfold Half.isIn lower at *
  rw [String.toList_ofList]
  rw [List.any_eq_false] at h ⊢
  intro c hc
  rcases mem_lowerFrom hc with hc | ⟨hmem, -⟩
  · rw [hc.not_isStandIn]
    exact Bool.false_ne_true
  · exact h c hmem

/-- Trimming brings no halves into a text. -/
theorem isIn_trim {s : String} (h : Half.isIn s = false) : Half.isIn (trim s) = false := by
  unfold Half.isIn trim at *
  rw [String.toList_ofList]
  rw [List.any_eq_false] at h ⊢
  intro c hc
  refine h c ?_
  have hback := List.mem_reverse.1 hc
  have hmid := List.mem_reverse.1 ((List.dropWhile_sublist _).subset hback)
  exact (List.dropWhile_sublist _).subset hmid

end Text
end Cadence
