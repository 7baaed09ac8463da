/-
# Blank characters and trimming

`isBlank` is the class of white space: the separators of Unicode, the ASCII controls from tab to
carriage return, the four information separators and the next-line control. Zero-width marks are
not blank. `trim` takes blanks off both ends, and a text is `blank` if nothing is left.

Key definitions: `isBlank`, `trimChars`, `trim`, `isBlankText`.
Key theorems: `trimChars_idem`, `trim_idem`.
-/
import Cadence.Text.Ranges

namespace Cadence
namespace Text

/-- The ranges of white space. -/
def blankRanges : Ranges :=
  [(0x09, 0x0d), (0x1c, 0x20), (0x85, 0x85), (0xa0, 0xa0), (0x1680, 0x1680), (0x2000, 0x200a),
    (0x2028, 0x2029), (0x202f, 0x202f), (0x205f, 0x205f), (0x3000, 0x3000)]

/-- Whether a character is white space. -/
def isBlank (c : Char) : Bool := blankRanges.mem c.toNat

/-- Characters without the blanks at both ends. -/
def trimChars (cs : List Char) : List Char :=
  ((cs.dropWhile isBlank).reverse.dropWhile isBlank).reverse

/-- A text without the blanks at both ends. -/
def trim (s : String) : String := String.ofList (trimChars s.toList)

/-- Whether a text is empty or holds blanks only. -/
def isBlankText (s : String) : Bool := s.toList.all isBlank

/-- The trimmed text, if something is left of it. -/
def trimmed? (s : String) : Option String :=
  let t := trim s
  if t = "" then none else some t

/-- A list whose head fails the test loses nothing. -/
theorem dropWhile_eq_self_of_head {p : Char → Bool} :
    ∀ {cs : List Char}, (∀ c ∈ cs.head?, p c = false) → cs.dropWhile p = cs
  | [], _ => rfl
  | c :: cs, h => by simp [List.dropWhile, h c (by simp)]

/-- What is left after dropping starts with a character that fails the test. -/
theorem head?_dropWhile_false (p : Char → Bool) :
    ∀ cs : List Char, ∀ c ∈ (cs.dropWhile p).head?, p c = false
  | [], c, h => by simp at h
  | d :: cs, c, h => by
    by_cases hd : p d = true
    · rw [List.dropWhile_cons_of_pos hd] at h
      exact head?_dropWhile_false p cs c h
    · rw [List.dropWhile_cons_of_neg hd] at h
      simp only [List.head?_cons, Option.mem_def, Option.some.injEq] at h
      subst h
      simpa using hd

/-- Dropping at the end keeps the head, if anything is left. -/
theorem head?_dropEnd (p : Char → Bool) (cs : List Char) :
    ∀ c ∈ ((cs.reverse.dropWhile p).reverse).head?, c ∈ cs.head? := by
  intro c h
  obtain ⟨t, ht⟩ : ∃ t, cs = (cs.reverse.dropWhile p).reverse ++ t :=
    ⟨(cs.reverse.takeWhile p).reverse, by
      rw [← List.reverse_append, List.takeWhile_append_dropWhile, List.reverse_reverse]⟩
  rw [ht]
  cases hd : (cs.reverse.dropWhile p).reverse with
  | nil => simp [hd] at h
  | cons d ds => simpa [hd] using h

/-- **Trimming twice is trimming once.** -/
theorem trimChars_idem (cs : List Char) : trimChars (trimChars cs) = trimChars cs := by
  have front : (trimChars cs).dropWhile isBlank = trimChars cs :=
    dropWhile_eq_self_of_head fun c hc =>
      head?_dropWhile_false isBlank cs c (head?_dropEnd isBlank _ c hc)
  have back : (trimChars cs).reverse.dropWhile isBlank = (trimChars cs).reverse :=
    dropWhile_eq_self_of_head fun c hc => by
      rw [trimChars, List.reverse_reverse] at hc
      exact head?_dropWhile_false isBlank _ c hc
  rw [trimChars, front, back, List.reverse_reverse]

theorem trim_idem (s : String) : trim (trim s) = trim s := by
  simp [trim, trimChars_idem]

end Text
end Cadence
