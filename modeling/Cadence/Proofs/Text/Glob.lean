/-
# Names that patterns accept

A text without stars, question marks and brackets is a pattern that stands for itself. Behind it, or
at the start of a pattern, a star stands for any characters. So a pattern of such a text, a star and
another such text accepts the names that start with the one and end with the other, with anything in
between (`accepts_around`).

Key definitions: `Glob.IsPlain`.
Key theorems: `parseChars_plain`, `acceptsChars_exact`, `someEnd_eq_true`, `accepts_around`.
-/
import Cadence.Text.Glob
import Mathlib.Tactic.Common

namespace Cadence
namespace Glob

/-- Whether a character stands for itself in a pattern. -/
def standsForItself (c : Char) : Bool := c ≠ '*' && c ≠ '?' && c ≠ '['

/-- A text all of whose characters stand for themselves in a pattern. -/
def IsPlain (cs : List Char) : Prop := ∀ c ∈ cs, standsForItself c = true

instance (cs : List Char) : Decidable (IsPlain cs) :=
  decidable_of_iff (cs.all standsForItself = true) List.all_eq_true

/-- Plain characters are read as themselves, and reading goes on behind them. -/
theorem parseChars_plain : ∀ {cs : List Char}, IsPlain cs → ∀ (steps : Nat) (rest : List Char),
    parseChars (cs.length + steps) (cs ++ rest) = cs.map .exact ++ parseChars steps rest
  | [], _, steps, rest => by
    rw [List.length_nil, Nat.zero_add]
    rfl
  | c :: cs, h, steps, rest => by
    have hrest : IsPlain cs := fun d hd => h d (List.mem_cons_of_mem _ hd)
    have hc := h c List.mem_cons_self
    simp only [standsForItself, Bool.and_eq_true, decide_eq_true_eq] at hc
    obtain ⟨⟨hstar, hmark⟩, hbracket⟩ := hc
    rw [List.length_cons, Nat.add_right_comm, List.cons_append, List.map_cons, List.cons_append,
      ← parseChars_plain hrest steps rest]
    rw [parseChars]
    · exact hstar
    · exact hmark
    · exact hbracket

/-- A plain text accepts itself, with whatever the parts behind it accept. -/
theorem acceptsChars_exact (parts : List Part) : ∀ (cs : List Char) {name : List Char},
    acceptsChars (cs.map .exact ++ parts) name = true ↔
      ∃ rest, name = cs ++ rest ∧ acceptsChars parts rest = true
  | [], name => by
    constructor
    · exact fun h => ⟨name, rfl, h⟩
    · rintro ⟨rest, rfl, h⟩
      exact h
  | c :: cs, [] => by
    constructor
    · intro h
      cases h
    · rintro ⟨rest, h, -⟩
      cases h
  | c :: cs, d :: name => by
    have hstep : acceptsChars ((c :: cs).map .exact ++ parts) (d :: name) =
        (decide (d = c) && acceptsChars (cs.map .exact ++ parts) name) := rfl
    rw [hstep, Bool.and_eq_true, decide_eq_true_eq, acceptsChars_exact parts cs]
    constructor
    · rintro ⟨rfl, rest, rfl, h⟩
      exact ⟨rest, rfl, h⟩
    · rintro ⟨rest, heq, h⟩
      obtain ⟨rfl, rfl⟩ := List.cons.inj heq
      exact ⟨rfl, rest, rfl, h⟩

theorem someEnd_eq_true {accept : List Char → Bool} : ∀ {cs : List Char},
    someEnd accept cs = true ↔ ∃ front back, cs = front ++ back ∧ accept back = true
  | [] => by
    constructor
    · exact fun h => ⟨[], [], rfl, h⟩
    · rintro ⟨front, back, heq, h⟩
      obtain ⟨rfl, rfl⟩ := List.append_eq_nil_iff.1 heq.symm
      exact h
  | c :: cs => by
    unfold someEnd
    rw [Bool.or_eq_true, someEnd_eq_true]
    constructor
    · rintro (h | ⟨front, back, rfl, h⟩)
      · exact ⟨[], c :: cs, rfl, h⟩
      · exact ⟨c :: front, back, rfl, h⟩
    · rintro ⟨front, back, heq, h⟩
      cases front with
      | nil =>
        rw [List.nil_append] at heq
        rw [heq]
        exact Or.inl h
      | cons d front =>
        obtain ⟨rfl, rfl⟩ := List.cons.inj heq
        exact Or.inr ⟨front, back, rfl, h⟩

/-- A star and a plain text accept what ends with the text. -/
theorem acceptsChars_ending {last : List Char} {name : List Char} :
    acceptsChars (.many :: last.map .exact) name = true ↔ ∃ front, name = front ++ last := by
  have hmany : acceptsChars (.many :: last.map .exact) name =
      someEnd (acceptsChars (last.map .exact)) name := rfl
  have hself : ∀ back, acceptsChars (last.map .exact) back = true ↔ back = last := by
    intro back
    rw [← List.append_nil (last.map Part.exact), acceptsChars_exact]
    constructor
    · rintro ⟨rest, rfl, h⟩
      rw [List.isEmpty_iff.1 (show rest.isEmpty = true from h), List.append_nil]
    · rintro rfl
      exact ⟨[], (List.append_nil _).symm, rfl⟩
  rw [hmany, someEnd_eq_true]
  constructor
  · rintro ⟨front, back, rfl, h⟩
    exact ⟨front, by rw [(hself back).1 h]⟩
  · rintro ⟨front, rfl⟩
    exact ⟨front, last, rfl, (hself last).2 rfl⟩

/-- **A plain text, a star and a plain text** accept the names that start with the first and end with
the last, with anything in between. -/
theorem accepts_around {first last : List Char} (hf : IsPlain first) (hl : IsPlain last)
    {name : String} : accepts (String.ofList (first ++ '*' :: last)) name = true ↔
      ∃ middle, name.toList = first ++ (middle ++ last) := by
  have hparse : parse (String.ofList (first ++ '*' :: last)) =
      first.map .exact ++ .many :: last.map .exact := by
    have hend : parseChars last.length last = last.map .exact := by
      have h := parseChars_plain hl 0 []
      rw [Nat.add_zero, List.append_nil] at h
      rw [h, show parseChars 0 [] = [] from rfl, List.append_nil]
    unfold parse
    rw [String.length_ofList, String.toList_ofList, List.length_append, List.length_cons,
      parseChars_plain hf]
    show _ ++ .many :: parseChars last.length last = _
    rw [hend]
  unfold accepts
  rw [hparse, acceptsChars_exact]
  constructor
  · rintro ⟨rest, hname, h⟩
    obtain ⟨middle, rfl⟩ := acceptsChars_ending.1 h
    exact ⟨middle, hname⟩
  · rintro ⟨middle, hname⟩
    exact ⟨middle ++ last, hname, acceptsChars_ending.2 ⟨middle, rfl⟩⟩

end Glob
end Cadence
