/-
# How a token is spelled

`Token.Spells` says what a token looks like, in one equation for the whole of it: double braces,
blanks, the word for a lead, a point or an underscore, the word for a field, blanks, double braces,
each letter in one of its forms. `readToken?` takes a text apart from the left, piece by piece, and
tries the fields one after the other; what it finds is a token at the start of the text, and it
misses none (`readToken?_eq_some`). The words for the fields start with letters that have no form in
common, so no two fields are spelled by the same piece.

The only open braces of a token are its first two characters (`Token.Spells.braces`), which is why
two tokens cannot overlap.

A word is written in small letters again if it has the letter i in its usual forms, and else it is
no field's word (`Token.value_of_plain`, `Token.value_of_foreign`): the dotless i stays what it is
and the dotted capital one becomes an i with a dot of its own.

Key definitions: `IsWritten`, `Token.Spells`, `Token.IsForeign`.
Key theorems: `readToken?_eq_some`, `Token.Spells.braces`, `Token.value_of_plain`,
`Token.value_of_foreign`.
-/
import Cadence.Lead.Tokens
import Cadence.Proofs.Checks
import Mathlib.Data.List.Forall2

namespace Cadence

/-- A word is written with forms of its letters, one for each. -/
def IsWritten (word written : List Char) : Prop :=
  List.Forall₂ (fun letter c => isFormOf letter c = true) word written

instance {word written : List Char} : Decidable (IsWritten word written) :=
  inferInstanceAs (Decidable (List.Forall₂ _ word written))

/-- The dotted capital i and the dotless small one. -/
def foreignForms : List Char := [Char.ofNat 0x130, Char.ofNat 0x131]

namespace Token

/-- A piece of text is a token: the word for a lead and that for the field, as it is written,
between double braces. -/
def Spells (t : Token) (piece : List Char) : Prop :=
  ∃ before lead joint after,
    piece = '{' :: '{' :: (before ++ (lead ++ joint :: (t.written ++ (after ++ ['}', '}'])))) ∧
      (∀ c ∈ before, Text.isBlank c = true) ∧ IsWritten ['l', 'e', 'a', 'd'] lead ∧
      (joint = '.' ∨ joint = '_') ∧ IsWritten t.field.word t.written ∧
      ∀ c ∈ after, Text.isBlank c = true

/-- A token is written with a foreign i. -/
def IsForeign (t : Token) : Prop := ∃ c ∈ t.written, c ∈ foreignForms

instance {t : Token} : Decidable t.IsForeign :=
  decidable_of_iff (t.written.any (· ∈ foreignForms) = true) (by simp [IsForeign])

end Token

/-! ### Reading -/

theorem isFormOf_iff {letter c : Char} : isFormOf letter c = true ↔ c = letter ∨
    c = letter.toUpper ∨ letter = 'i' ∧ c ∈ foreignForms := by
  simp [isFormOf, foreignForms, or_assoc]

theorem readWord?_eq_some : ∀ {word cs written rest : List Char},
    readWord? word cs = some (written, rest) ↔ IsWritten word written ∧ cs = written ++ rest
  | [], cs, written, rest => by
    simp only [readWord?, Option.some.injEq, Prod.mk.injEq, IsWritten, List.forall₂_nil_left_iff]
    constructor
    · rintro ⟨rfl, rfl⟩
      exact ⟨rfl, rfl⟩
    · rintro ⟨rfl, rfl⟩
      exact ⟨rfl, rfl⟩
  | letter :: word, [], written, rest => by
    simp only [readWord?, IsWritten, List.forall₂_cons_left_iff]
    constructor
    · intro h
      cases h
    · rintro ⟨⟨c, cs, -, -, rfl⟩, h⟩
      cases h
  | letter :: word, c :: cs, written, rest => by
    unfold readWord?
    rw [IsWritten, List.forall₂_cons_left_iff]
    split
    · rename_i hc
      rw [Option.map_eq_some_iff]
      constructor
      · rintro ⟨⟨written', rest'⟩, h, heq⟩
        obtain ⟨rfl, rfl⟩ := Prod.mk.inj heq
        obtain ⟨hwritten, rfl⟩ := readWord?_eq_some.1 h
        exact ⟨⟨c, written', hc, hwritten, rfl⟩, rfl⟩
      · rintro ⟨⟨c', written', -, hwritten, rfl⟩, heq⟩
        obtain ⟨rfl, rfl⟩ := List.cons.inj heq
        exact ⟨(written', rest), readWord?_eq_some.2 ⟨hwritten, rfl⟩, rfl⟩
    · rename_i hc
      refine iff_of_false (fun h => by cases h) ?_
      rintro ⟨⟨c', written', hc', -, rfl⟩, heq⟩
      obtain ⟨rfl, -⟩ := List.cons.inj heq
      exact hc hc'

/-- Blanks are dropped up to a character that is not blank. -/
theorem dropWhile_isBlank {before : List Char} (hbefore : ∀ c ∈ before, Text.isBlank c = true)
    {c : Char} (hc : Text.isBlank c = false) (cs : List Char) :
    (before ++ c :: cs).dropWhile Text.isBlank = c :: cs := by
  rw [List.dropWhile_append_of_pos hbefore]
  exact Text.dropWhile_eq_self_of_head (by simpa using hc)

theorem readClosing?_eq_some {cs rest : List Char} : readClosing? cs = some rest ↔
    ∃ after, (∀ c ∈ after, Text.isBlank c = true) ∧ cs = after ++ '}' :: '}' :: rest := by
  unfold readClosing?
  constructor
  · intro h
    split at h
    · rename_i tail htail
      obtain rfl := Option.some.inj h
      refine ⟨cs.takeWhile Text.isBlank, List.all_eq_true.1 List.all_takeWhile, ?_⟩
      rw [← htail, List.takeWhile_append_dropWhile]
    · cases h
  · rintro ⟨after, hafter, rfl⟩
    rw [dropWhile_isBlank hafter (by decide)]
    rfl

theorem readField?_eq_some {field : TokenField} {cs rest : List Char} {t : Token} :
    readField? field cs = some (t, rest) ↔ t.field = field ∧ IsWritten field.word t.written ∧
      ∃ after, (∀ c ∈ after, Text.isBlank c = true) ∧
        cs = t.written ++ (after ++ '}' :: '}' :: rest) := by
  obtain ⟨field', written⟩ := t
  simp only [readField?, bind, Option.bind_eq_some_iff, Option.some.injEq, Prod.mk.injEq,
    Prod.exists, Token.mk.injEq]
  constructor
  · rintro ⟨written', rest', hword, rest'', hclosing, ⟨rfl, rfl⟩, rfl⟩
    obtain ⟨hwritten, rfl⟩ := readWord?_eq_some.1 hword
    obtain ⟨after, hafter, rfl⟩ := readClosing?_eq_some.1 hclosing
    exact ⟨rfl, hwritten, after, hafter, rfl⟩
  · rintro ⟨rfl, hwritten, after, hafter, rfl⟩
    exact ⟨written, _, readWord?_eq_some.2 ⟨hwritten, rfl⟩, rest,
      readClosing?_eq_some.2 ⟨after, hafter, rfl⟩, ⟨rfl, rfl⟩, rfl⟩

/-- The word for a field starts with a form of its first letter. -/
theorem IsWritten.first {field : TokenField} {written : List Char}
    (h : IsWritten field.word written) :
    ∃ c rest, written = c :: rest ∧ field.word.head? = some c.toLower := by
  have hform : ∀ {letter c : Char}, letter ≠ 'i' → isFormOf letter c = true →
      c = letter ∨ c = letter.toUpper := fun hne hc =>
    (isFormOf_iff.1 hc).imp_right fun h => h.resolve_right fun h => hne h.1
  cases field <;> obtain ⟨c, rest, hc, -, rfl⟩ := List.forall₂_cons_left_iff.1 h <;>
    refine ⟨c, rest, rfl, ?_⟩ <;> rcases hform (by decide) hc with rfl | rfl <;> rfl

/-- The words of different fields are told apart by their first letters. -/
theorem field_unique {f g : TokenField} {v w x y : List Char} (hf : IsWritten f.word v)
    (hg : IsWritten g.word w) (h : v ++ x = w ++ y) : f = g := by
  obtain ⟨c, v, rfl, hc⟩ := hf.first
  obtain ⟨d, w, rfl, hd⟩ := hg.first
  obtain rfl := (List.cons.inj h).1
  have hsame := hc.trans hd.symm
  revert hsame
  cases f <;> cases g <;> decide

theorem readFields_eq_some {cs rest : List Char} {t : Token} :
    (readField? .name cs).or ((readField? .email cs).or (readField? .phone cs)) = some (t, rest) ↔
      readField? t.field cs = some (t, rest) := by
  have hother : ∀ field, readField? t.field cs = some (t, rest) → field ≠ t.field →
      readField? field cs = none := by
    intro field h hne
    refine Option.eq_none_iff_forall_not_mem.2 fun (u, rest') hu => hne ?_
    obtain ⟨-, hwritten, after, -, rfl⟩ := readField?_eq_some.1 h
    obtain ⟨-, hwritten', after', -, heq⟩ := readField?_eq_some.1 hu
    exact field_unique hwritten' hwritten heq.symm
  constructor
  · intro h
    have hone : ∃ field, readField? field cs = some (t, rest) := by
      rcases Option.or_eq_some_iff.1 h with h | ⟨-, h⟩
      · exact ⟨_, h⟩
      · rcases Option.or_eq_some_iff.1 h with h | ⟨-, h⟩
        · exact ⟨_, h⟩
        · exact ⟨_, h⟩
    obtain ⟨field, hfield⟩ := hone
    rwa [(readField?_eq_some.1 hfield).1]
  · intro h
    cases hfield : t.field with
    | name => rw [← hfield, h, Option.some_or]
    | email =>
      rw [hother .name h (by simp [hfield]), Option.none_or, ← hfield, h, Option.some_or]
    | phone =>
      rw [hother .name h (by simp [hfield]), hother .email h (by simp [hfield]), Option.none_or,
        Option.none_or, ← hfield, h]

theorem readOpening?_eq_some {cs rest : List Char} : readOpening? cs = some rest ↔
    ∃ inner, cs = '{' :: '{' :: inner ∧ inner.dropWhile Text.isBlank = rest := by
  unfold readOpening?
  constructor
  · intro h
    split at h
    · exact ⟨_, rfl, Option.some.inj h⟩
    · cases h
  · rintro ⟨inner, rfl, rfl⟩
    rfl

/-- The first letter of a lead's word is not blank. -/
theorem lead_first {lead : List Char} (h : IsWritten ['l', 'e', 'a', 'd'] lead) :
    ∃ c rest, lead = c :: rest ∧ Text.isBlank c = false := by
  obtain ⟨c, rest, hc, -, rfl⟩ := List.forall₂_cons_left_iff.1 h
  refine ⟨c, rest, rfl, ?_⟩
  rcases isFormOf_iff.1 hc with rfl | rfl | ⟨h, -⟩
  · decide
  · decide
  · exact absurd h (by decide)

/-- **What is read is a token at the start of the text**, and no token there is missed. -/
theorem readToken?_eq_some {cs rest : List Char} {t : Token} : readToken? cs = some (t, rest) ↔
    ∃ piece, t.Spells piece ∧ cs = piece ++ rest := by
  simp only [readToken?, bind, Option.bind_eq_some_iff]
  constructor
  · rintro ⟨_, hopening, ⟨lead, tail⟩, hread, h⟩
    obtain ⟨inner, rfl, hinner⟩ := readOpening?_eq_some.1 hopening
    obtain ⟨hlead, rfl⟩ := readWord?_eq_some.1 hread
    cases tail with
    | nil => cases h
    | cons joint tail =>
      simp only [Bool.or_eq_true, decide_eq_true_eq] at h
      split at h
      · rename_i hjoint
        obtain ⟨-, hwritten, after, hafter, rfl⟩ := readField?_eq_some.1 (readFields_eq_some.1 h)
        refine ⟨_, ⟨inner.takeWhile Text.isBlank, lead, joint, after, rfl,
          List.all_eq_true.1 List.all_takeWhile, hlead, hjoint, hwritten, hafter⟩, ?_⟩
        have hsplit := List.takeWhile_append_dropWhile (p := Text.isBlank) (l := inner)
        rw [hinner] at hsplit
        simpa using hsplit.symm
      · cases h
  · rintro ⟨piece, ⟨before, lead, joint, after, rfl, hbefore, hlead, hjoint, hwritten, hafter⟩, rfl⟩
    obtain ⟨c, lead', hcons, hblank⟩ := lead_first hlead
    refine ⟨lead ++ joint :: (t.written ++ (after ++ '}' :: '}' :: rest)), ?_,
      (lead, joint :: (t.written ++ (after ++ '}' :: '}' :: rest))),
      readWord?_eq_some.2 ⟨hlead, rfl⟩, ?_⟩
    · refine readOpening?_eq_some.2 ⟨before ++ (lead ++ joint :: (t.written ++
        (after ++ '}' :: '}' :: rest))), by simp, ?_⟩
      rw [hcons, List.cons_append, dropWhile_isBlank hbefore hblank]
    · simp only [Bool.or_eq_true, decide_eq_true_eq, if_pos hjoint]
      exact readFields_eq_some.2 (readField?_eq_some.2 ⟨rfl, hwritten, after, hafter, rfl⟩)

/-! ### Braces -/

/-- No blank and no form of a letter of a token is an open brace. -/
theorem not_mem_of_isWritten {word written : List Char} (h : IsWritten word written)
    (hword : (word.any fun letter => isFormOf letter '{') = false) : '{' ∉ written := by
  induction h with
  | nil => exact List.not_mem_nil
  | @cons letter c word written hc _ ih =>
    rw [List.any_cons, Bool.or_eq_false_iff] at hword
    rw [List.mem_cons, not_or]
    refine ⟨?_, ih hword.2⟩
    rintro rfl
    rw [hword.1] at hc
    cases hc

theorem not_mem_of_isBlank {cs : List Char} (h : ∀ c ∈ cs, Text.isBlank c = true) : '{' ∉ cs :=
  fun hmem => absurd (h _ hmem) (by decide)

/-- **The only open braces of a token are the two that it starts with.** -/
theorem Token.Spells.braces {t : Token} {piece : List Char} (h : t.Spells piece) :
    ∃ inner, piece = '{' :: '{' :: inner ∧ inner ≠ [] ∧ '{' ∉ inner := by
  obtain ⟨before, lead, joint, after, rfl, hbefore, hlead, hjoint, hwritten, hafter⟩ := h
  refine ⟨_, rfl, by simp, ?_⟩
  have hfield : (t.field.word.any fun letter => isFormOf letter '{') = false := by
    cases t.field <;> decide
  have hjoint' : '{' ≠ joint := by
    rcases hjoint with rfl | rfl <;> decide
  simp only [List.mem_append, List.mem_cons, not_or, List.not_mem_nil, not_false_eq_true, and_true]
  exact ⟨not_mem_of_isBlank hbefore, not_mem_of_isWritten hlead (by decide), hjoint',
    not_mem_of_isWritten hwritten hfield, not_mem_of_isBlank hafter, by decide, by decide⟩

/-! ### Small letters -/

/-- What a form of a letter becomes in small letters. -/
def smallForm (letter c : Char) : List Char :=
  if c = Char.ofNat 0x130 then ['i', Char.ofNat 0x307]
  else if c = Char.ofNat 0x131 then [c]
  else [letter]

theorem smallForm_of_plain {letter c : Char} (h : c ∉ foreignForms) :
    smallForm letter c = [letter] := by
  simp only [foreignForms, List.mem_cons, List.not_mem_nil, or_false, not_or] at h
  rw [smallForm, if_neg h.1, if_neg h.2]

/-- A field's word is in small letters, and its letters and their capitals are no foreign forms. -/
theorem letters_lowered (field : TokenField) :
    ∀ letter ∈ field.word, ∀ c ∈ [letter, letter.toUpper],
      c ∉ foreignForms ∧ c.toNat ≠ 0x130 ∧ c.toNat ≠ 0x3a3 ∧ Text.lowerChar c = letter := by
  have hall : (field.word.all fun letter => [letter, letter.toUpper].all fun c =>
      c ∉ foreignForms ∧ c.toNat ≠ 0x130 ∧ c.toNat ≠ 0x3a3 ∧ Text.lowerChar c = letter) = true := by
    cases field <;> decide +kernel
  intro letter hletter c hc
  exact of_decide_eq_true (List.all_eq_true.1 (List.all_eq_true.1 hall letter hletter) c hc)

variable {field : TokenField} {letter c : Char} {word written : List Char}

/-- A form of a letter that is not foreign is the letter or its capital, and only the letter i has
foreign ones. -/
theorem isFormOf_cases (hletter : letter ∈ field.word) (hc : isFormOf letter c = true) :
    c ∈ [letter, letter.toUpper] ∧ c ∉ foreignForms ∨ letter = 'i' ∧ c ∈ foreignForms := by
  have hplain : c ∈ [letter, letter.toUpper] → c ∈ [letter, letter.toUpper] ∧ c ∉ foreignForms :=
    fun h => ⟨h, (letters_lowered field letter hletter c h).1⟩
  rcases isFormOf_iff.1 hc with rfl | rfl | h
  · exact Or.inl (hplain List.mem_cons_self)
  · exact Or.inl (hplain (List.mem_cons_of_mem _ List.mem_cons_self))
  · exact Or.inr h

theorem lowerAt_of_isFormOf (hletter : letter ∈ field.word) (hc : isFormOf letter c = true)
    (before after : List Char) : Text.lowerAt before c after = smallForm letter c := by
  rcases isFormOf_cases hletter hc with ⟨hmem, hplain⟩ | ⟨-, hforeign⟩
  · obtain ⟨-, hdotted, hsigma, hlower⟩ := letters_lowered field letter hletter c hmem
    rw [Text.lowerAt, if_neg hdotted, if_neg hsigma, hlower, smallForm_of_plain hplain]
  · simp only [foreignForms, List.mem_cons, List.not_mem_nil, or_false] at hforeign
    rcases hforeign with rfl | rfl
    · rfl
    · have hdotless : Text.lowerChar (Char.ofNat 0x131) = Char.ofNat 0x131 := by decide +kernel
      rw [Text.lowerAt, if_neg (by decide), if_neg (by decide), hdotless]
      rfl

/-- A written word becomes the small forms of what it is written with, one letter after the
other. -/
theorem lowerFrom_of_isWritten (h : IsWritten word written) :
    ∀ before : List Char, (∀ letter ∈ word, letter ∈ field.word) →
      Text.lowerFrom before written = (List.zipWith smallForm word written).flatten := by
  induction h with
  | nil => exact fun _ _ => rfl
  | @cons letter c word written hc _ ih =>
    intro before hword
    rw [Text.lowerFrom, lowerAt_of_isFormOf (hword letter List.mem_cons_self) hc,
      ih _ fun l hl => hword l (List.mem_cons_of_mem _ hl)]
    rfl

theorem smallForms_of_plain (h : IsWritten word written)
    (hplain : ¬ ∃ c ∈ written, c ∈ foreignForms) :
    (List.zipWith smallForm word written).flatten = word := by
  induction h with
  | nil => rfl
  | @cons letter c word written _ _ ih =>
    rw [List.exists_mem_cons_iff, not_or] at hplain
    rw [List.zipWith_cons_cons, List.flatten_cons, ih hplain.2, smallForm_of_plain hplain.1]
    rfl

/-- Of the fields' words only one has an i. -/
theorem smallForms_of_foreign (h : IsWritten field.word written)
    (hforeign : ∃ c ∈ written, c ∈ foreignForms) :
    (List.zipWith smallForm field.word written).flatten ∈
      ["ema\u0131l".toList, "emai\u0307l".toList] := by
  have hplain : ∀ {letter c : Char}, letter ∈ field.word → isFormOf letter c = true → letter ≠ 'i' →
      c ∉ foreignForms := fun hletter hc hne =>
    (isFormOf_cases hletter hc).elim And.right fun h => absurd h.1 hne
  have hnone : 'i' ∉ field.word → False := by
    intro hi
    obtain ⟨c, hc, hcforeign⟩ := hforeign
    obtain ⟨letter, hletter, hform⟩ := exists_of_mem_right h hc
    exact hplain hletter hform (fun heq => hi (heq ▸ hletter)) hcforeign
  cases field with
  | name => exact (hnone (by decide)).elim
  | phone => exact (hnone (by decide)).elim
  | email =>
    obtain ⟨e, _, he, h1, rfl⟩ := List.forall₂_cons_left_iff.1 h
    obtain ⟨m, _, hm, h2, rfl⟩ := List.forall₂_cons_left_iff.1 h1
    obtain ⟨a, _, ha, h3, rfl⟩ := List.forall₂_cons_left_iff.1 h2
    obtain ⟨i, _, hi, h4, rfl⟩ := List.forall₂_cons_left_iff.1 h3
    obtain ⟨l, _, hl, h5, rfl⟩ := List.forall₂_cons_left_iff.1 h4
    obtain rfl := List.forall₂_nil_left_iff.1 h5
    have he := hplain (by decide) he (by decide)
    have hm := hplain (by decide) hm (by decide)
    have ha := hplain (by decide) ha (by decide)
    have hl := hplain (by decide) hl (by decide)
    have hi : i ∈ foreignForms := by simpa [he, hm, ha, hl] using hforeign
    simp only [TokenField.word, List.zipWith_cons_cons, List.zipWith_nil_left,
      smallForm_of_plain he, smallForm_of_plain hm, smallForm_of_plain ha, smallForm_of_plain hl]
    simp only [foreignForms, List.mem_cons, List.not_mem_nil, or_false] at hi
    rcases hi with rfl | rfl <;> decide

namespace Token

variable {t : Token} {piece : List Char}

/-- A piece is a token if it is read as one and nothing follows. -/
theorem spells_iff : t.Spells piece ↔ readToken? piece = some (t, []) := by
  rw [readToken?_eq_some]
  constructor
  · intro h
    exact ⟨piece, h, (List.append_nil _).symm⟩
  · rintro ⟨piece', h, rfl⟩
    rwa [List.append_nil]

instance : Decidable (t.Spells piece) := decidable_of_iff _ spells_iff.symm

theorem Spells.isWritten (h : t.Spells piece) : IsWritten t.field.word t.written := by
  obtain ⟨-, -, -, -, -, -, -, -, hwritten, -⟩ := h
  exact hwritten

theorem Spells.written_subset (h : t.Spells piece) : t.written ⊆ piece := by
  obtain ⟨before, lead, joint, after, rfl, -⟩ := h
  intro c hc
  simp [hc]

theorem lowered_toList (h : IsWritten t.field.word t.written) :
    t.lowered.toList = (List.zipWith smallForm t.field.word t.written).flatten := by
  rw [lowered, Text.lower, String.toList_ofList, String.toList_ofList]
  exact lowerFrom_of_isWritten h [] fun _ => id

/-- **A token stands for its field** unless it is written with a foreign i. -/
theorem value_of_plain (h : IsWritten t.field.word t.written) (hplain : ¬ t.IsForeign)
    (lead : Lead) : t.value lead = .ok (t.field.value lead) := by
  rw [value, lowered_toList h, smallForms_of_plain h hplain, if_pos rfl]

/-- A token that is written with a foreign i stands for nothing, and its word in small letters is
one of two. -/
theorem value_of_foreign (h : IsWritten t.field.word t.written) (hforeign : t.IsForeign)
    (lead : Lead) : t.value lead = .error t.lowered ∧
      t.lowered ∈ ["ema\u0131l", "emai\u0307l"] := by
  have hwords := smallForms_of_foreign h hforeign
  rw [← lowered_toList h] at hwords
  have hne : t.lowered.toList ≠ t.field.word := by
    intro heq
    rw [heq] at hwords
    revert hwords
    cases t.field <;> decide
  simp only [List.mem_cons, List.not_mem_nil, or_false, String.toList_inj] at hwords ⊢
  exact ⟨by rw [value, if_neg hne], hwords⟩

/-- The words that are names of fields are those without a foreign i. -/
theorem lowered_mem_iff (h : IsWritten t.field.word t.written) :
    t.lowered ∈ ["name", "email", "phone"] ↔ ¬ t.IsForeign := by
  constructor
  · intro hmem hforeign
    have hword := (value_of_foreign h hforeign Lead.unknown).2
    generalize t.lowered = word at hmem hword
    simp only [List.mem_cons, List.not_mem_nil, or_false] at hmem hword
    rcases hmem with rfl | rfl | rfl <;> revert hword <;> decide
  · intro hplain
    have hword : t.lowered.toList = t.field.word := by
      rw [lowered_toList h, smallForms_of_plain h hplain]
    rw [← String.ofList_toList (s := t.lowered), hword]
    cases t.field <;> decide

end Token
end Cadence
