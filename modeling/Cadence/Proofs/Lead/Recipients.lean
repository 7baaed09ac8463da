/-
# Tokens in place of an address

A recipient can be configured with a token, but not with every spelling of it that a message text
may have. `tokenSpellings` is a list, and it has room for one space on either side of the words or
for none; a message reads any blanks there. So what counts is what a token is padded with
(`Token.Padded`), which no two readings of one piece of text disagree on (`Token.Padded.unique`).

In small letters a token keeps its blanks, because no blank has a small form, and its words become
the words of the list (`Token.Padded.lower`). So it is on the list for a field if it is a token of
this field and is padded like the members of the list (`mem_tokenSpellings`), and only then it is
not taken for an address (`Token.Stands.recipient`).

Key definitions: `Token.Padded`, `Token.Stands`, `Token.IsListed`.
Key theorems: `Token.Padded.unique`, `Token.Padded.lower`, `mem_tokenSpellings`,
`Token.Stands.recipient`.
-/
import Cadence.Lead.Recipient
import Cadence.Proofs.Lead.Rendered
import Cadence.Proofs.Text.Lower

namespace Cadence

/-- A piece of text is a token with some blanks behind the open braces and some before the closing
ones. -/
def Token.Padded (t : Token) (before after piece : List Char) : Prop :=
  ∃ lead joint,
    piece = '{' :: '{' :: (before ++ (lead ++ joint :: (t.written ++ (after ++ ['}', '}'])))) ∧
      (∀ c ∈ before, Text.isBlank c = true) ∧ IsWritten ['l', 'e', 'a', 'd'] lead ∧
      (joint = '.' ∨ joint = '_') ∧ IsWritten t.field.word t.written ∧
      ∀ c ∈ after, Text.isBlank c = true

/-- A text is as a whole a token that a message would have replaced. -/
def Token.Stands (t : Token) (before after : List Char) (text : String) : Prop :=
  t.Padded before after text.toList ∧ ¬ t.IsForeign

/-- A token stands for a field in place of an address: it is the field's own, and there is no blank
next to its braces or one space next to both pairs. -/
def Token.IsListed (t : Token) (field : TokenField) (before after : List Char) : Prop :=
  t.field = field ∧ before = after ∧ (before = [] ∨ before = [' '])

instance {t : Token} {field : TokenField} {before after : List Char} :
    Decidable (t.IsListed field before after) :=
  inferInstanceAs (Decidable (_ ∧ _))

variable {t u : Token} {field : TokenField} {before after before' after' piece : List Char}

theorem Token.spells_iff_padded : t.Spells piece ↔ ∃ before after, t.Padded before after piece := by
  constructor
  · rintro ⟨before, lead, joint, after, h⟩
    exact ⟨before, after, lead, joint, h⟩
  · rintro ⟨before, after, lead, joint, h⟩
    exact ⟨before, lead, joint, after, h⟩

/-! ### One reading -/

/-- Blanks before a character that is none end where it stands. -/
theorem blanks_unique {cs ds : List Char} {c d : Char}
    (hbefore : ∀ c ∈ before, Text.isBlank c = true)
    (hbefore' : ∀ c ∈ before', Text.isBlank c = true) (hc : Text.isBlank c = false)
    (hd : Text.isBlank d = false) (h : before ++ c :: cs = before' ++ d :: ds) :
    before = before' ∧ c :: cs = d :: ds := by
  have hrest : c :: cs = d :: ds := by
    have hdrop := congrArg (List.dropWhile Text.isBlank) h
    rwa [dropWhile_isBlank hbefore hc, dropWhile_isBlank hbefore' hd] at hdrop
  rw [hrest] at h
  exact ⟨List.append_cancel_right h, hrest⟩

/-- Words with as many letters end at the same place. -/
theorem written_unique {word v w x y : List Char} (hv : IsWritten word v) (hw : IsWritten word w)
    (h : v ++ x = w ++ y) : v = w ∧ x = y :=
  List.append_inj h (hv.length_eq.symm.trans hw.length_eq)

theorem isWritten_self (word : List Char) : IsWritten word word :=
  List.forall₂_same.2 fun _ _ => isFormOf_iff.2 (Or.inl rfl)

/-- **A token is read in one way only**: for one field, and with the same blanks. -/
theorem Token.Padded.unique (ht : t.Padded before after piece)
    (hu : u.Padded before' after' piece) :
    t.field = u.field ∧ before = before' ∧ after = after' := by
  obtain ⟨lead, joint, rfl, hbefore, hlead, -, hwritten, -⟩ := ht
  obtain ⟨lead', joint', heq, hbefore', hlead', -, hwritten', -⟩ := hu
  simp only [List.cons.injEq, true_and] at heq
  obtain ⟨c, l, rfl, hc⟩ := lead_first hlead
  obtain ⟨d, l', rfl, hd⟩ := lead_first hlead'
  obtain ⟨hsame, hrest⟩ := blanks_unique hbefore hbefore' hc hd heq
  obtain ⟨-, hrest⟩ := written_unique hlead hlead' hrest
  obtain ⟨-, hrest⟩ := List.cons.inj hrest
  have hfield : t.field = u.field := field_unique hwritten hwritten' hrest
  rw [← hfield] at hwritten'
  obtain ⟨-, hrest⟩ := written_unique hwritten hwritten' hrest
  exact ⟨hfield, hsame, List.append_cancel_right hrest⟩

/-! ### Small letters -/

/-- A character becomes another in small letters, wherever it stands. -/
def Lowers (c d : Char) : Prop := ∀ before after, Text.lowerAt before c after = [d]

theorem lowerFrom_of_lowers {cs ds : List Char} (h : List.Forall₂ Lowers cs ds) :
    ∀ before, Text.lowerFrom before cs = ds := by
  induction h with
  | nil => exact fun _ => rfl
  | cons hc _ ih =>
    intro before
    rw [Text.lowerFrom, hc, ih]
    rfl

theorem lowers_blanks (h : ∀ c ∈ before, Text.isBlank c = true) :
    List.Forall₂ Lowers before before :=
  List.forall₂_same.2 fun c hc => Text.lowerAt_of_isLowered (Text.isLowered_of_isBlank (h c hc))

/-- A written word becomes the word if each of its letters does. -/
theorem lowers_written {word written : List Char} (h : IsWritten word written)
    (hone : ∀ letter ∈ word, ∀ c ∈ written, isFormOf letter c = true → Lowers c letter) :
    List.Forall₂ Lowers written word := by
  induction h with
  | nil => exact .nil
  | cons hc _ ih =>
    have hfirst := hone _ List.mem_cons_self _ List.mem_cons_self hc
    refine .cons hfirst (ih fun letter hletter c hc => ?_)
    exact hone letter (List.mem_cons_of_mem _ hletter) c (List.mem_cons_of_mem _ hc)

theorem lowers_of_lowerChar {c d : Char}
    (h : c.toNat ≠ 0x130 ∧ c.toNat ≠ 0x3a3 ∧ Text.lowerChar c = d) : Lowers c d := by
  intro before after
  rw [Text.lowerAt, if_neg h.1, if_neg h.2.1, h.2.2]

/-- The marks of a token stay. -/
theorem lowers_mark {c : Char} (h : c ∈ ['{', '}', '.', '_']) : Lowers c c := by
  have hall : (['{', '}', '.', '_'].all fun c =>
      c.toNat ≠ 0x130 ∧ c.toNat ≠ 0x3a3 ∧ Text.lowerChar c = c) = true := by
    decide +kernel
  exact lowers_of_lowerChar (of_decide_eq_true (List.all_eq_true.1 hall c h))

theorem lowers_lead {lead : List Char} (h : IsWritten ['l', 'e', 'a', 'd'] lead) :
    List.Forall₂ Lowers lead ['l', 'e', 'a', 'd'] := by
  have hall : (['l', 'e', 'a', 'd'].all fun letter => letter ≠ 'i' &&
      [letter, letter.toUpper].all fun c =>
        c.toNat ≠ 0x130 ∧ c.toNat ≠ 0x3a3 ∧ Text.lowerChar c = letter) = true := by
    decide +kernel
  refine lowers_written h fun letter hletter c _ hc => ?_
  obtain ⟨hi, hforms⟩ := Bool.and_eq_true_iff.1 (List.all_eq_true.1 hall letter hletter)
  refine lowers_of_lowerChar (of_decide_eq_true (List.all_eq_true.1 hforms c ?_))
  rcases isFormOf_iff.1 hc with rfl | rfl | ⟨h, -⟩
  · exact List.mem_cons_self
  · exact List.mem_cons_of_mem _ List.mem_cons_self
  · exact absurd h (of_decide_eq_true hi)

theorem lowers_field {written : List Char} (h : IsWritten field.word written)
    (hplain : ¬ ∃ c ∈ written, c ∈ foreignForms) : List.Forall₂ Lowers written field.word := by
  refine lowers_written h fun letter hletter c hc hform before after => ?_
  have hown : c ∉ foreignForms := fun hforeign => hplain ⟨c, hc, hforeign⟩
  rw [lowerAt_of_isFormOf hletter hform, smallForm_of_plain hown]

/-- **In small letters a token keeps its blanks** and has the two words as they are. -/
theorem Token.Padded.lower (h : t.Padded before after piece) (hplain : ¬ t.IsForeign) :
    ∃ joint, (joint = '.' ∨ joint = '_') ∧ Text.lowerFrom [] piece =
      '{' :: '{' :: (before ++ (['l', 'e', 'a', 'd'] ++ joint ::
        (t.field.word ++ (after ++ ['}', '}'])))) := by
  obtain ⟨lead, joint, rfl, hbefore, hlead, hjoint, hwritten, hafter⟩ := h
  have hmark : Lowers joint joint := by
    rcases hjoint with rfl | rfl
    · exact lowers_mark (by decide)
    · exact lowers_mark (by decide)
  have hopen : Lowers '{' '{' := lowers_mark (by decide)
  have hclose : Lowers '}' '}' := lowers_mark (by decide)
  refine ⟨joint, hjoint, lowerFrom_of_lowers (.cons hopen (.cons hopen ?_)) []⟩
  refine List.rel_append (lowers_blanks hbefore)
    (List.rel_append (lowers_lead hlead) (.cons hmark ?_))
  exact List.rel_append (lowers_field hwritten hplain)
    (List.rel_append (lowers_blanks hafter) (.cons hclose (.cons hclose .nil)))

/-! ### The list -/

/-- What the list has next to the braces is blank. -/
theorem isBlank_of_pad {pad : List Char} (h : pad = [] ∨ pad = [' ']) :
    ∀ c ∈ pad, Text.isBlank c = true := by
  have hall : pad.all Text.isBlank = true := by
    rcases h with rfl | rfl <;> decide
  exact List.all_eq_true.1 hall

/-- The list has both joints, in braces with and without spaces and without braces. -/
theorem mem_tokenSpellings_iff {s : String} {word : List Char} :
    s ∈ tokenSpellings (String.ofList word) ↔ ∃ joint, (joint = '.' ∨ joint = '_') ∧
      (s.toList = ['l', 'e', 'a', 'd'] ++ joint :: word ∨ ∃ pad, (pad = [] ∨ pad = [' ']) ∧
        s.toList = '{' :: '{' :: (pad ++ (['l', 'e', 'a', 'd'] ++ joint ::
          (word ++ (pad ++ ['}', '}']))))) := by
  simp only [tokenSpellings, List.flatMap_cons, List.flatMap_nil, ← String.toList_inj,
    List.mem_append, List.mem_cons, List.not_mem_nil, or_false, String.toList_append,
    String.toList_ofList]
  constructor
  · rintro ((h | h | h) | (h | h | h))
    · exact ⟨'.', Or.inl rfl, Or.inr ⟨[], Or.inl rfl, by simpa using h⟩⟩
    · exact ⟨'.', Or.inl rfl, Or.inr ⟨[' '], Or.inr rfl, by simpa using h⟩⟩
    · exact ⟨'.', Or.inl rfl, Or.inl (by simpa using h)⟩
    · exact ⟨'_', Or.inr rfl, Or.inr ⟨[], Or.inl rfl, by simpa using h⟩⟩
    · exact ⟨'_', Or.inr rfl, Or.inr ⟨[' '], Or.inr rfl, by simpa using h⟩⟩
    · exact ⟨'_', Or.inr rfl, Or.inl (by simpa using h)⟩
  · rintro ⟨joint, rfl | rfl, h | ⟨pad, rfl | rfl, h⟩⟩ <;> simp [h]

/-- **A token in small letters is on the list for a field** if it is the field's own and is padded
as the list has it. Two readings of one text have the same blanks, so nothing else is on it. -/
theorem mem_tokenSpellings {text : String} (h : t.Stands before after text) (field : TokenField) :
    Text.lower text ∈ tokenSpellings (String.ofList field.word) ↔
      t.IsListed field before after := by
  obtain ⟨hpadded, hplain⟩ := h
  obtain ⟨joint, hjoint, hlower⟩ := hpadded.lower hplain
  obtain ⟨-, -, -, hbefore, -, -, -, hafter⟩ := hpadded
  have htext : (Text.lower text).toList = Text.lowerFrom [] text.toList := by
    rw [Text.lower, String.toList_ofList, Text.lowerChars]
  rw [mem_tokenSpellings_iff, htext, hlower]
  constructor
  · rintro ⟨joint', hjoint', h | ⟨pad, hpad, h⟩⟩
    · exact absurd (List.cons.inj h).1 (by decide)
    · have hread : Token.Padded ⟨t.field, t.field.word⟩ before after _ :=
        ⟨['l', 'e', 'a', 'd'], joint, rfl, hbefore, isWritten_self _, hjoint, isWritten_self _,
          hafter⟩
      have hblank := isBlank_of_pad hpad
      have hlisted : Token.Padded ⟨field, field.word⟩ pad pad _ :=
        ⟨['l', 'e', 'a', 'd'], joint', h, hblank, isWritten_self _, hjoint', isWritten_self _,
          hblank⟩
      obtain ⟨hfield, rfl, rfl⟩ := hread.unique hlisted
      exact ⟨hfield, rfl, hpad⟩
  · rintro ⟨rfl, rfl, hpad⟩
    exact ⟨joint, hjoint, Or.inr ⟨before, hpad, rfl⟩⟩

namespace Token.Stands

variable {text : String} {override own : Option String} {configured : String}

/-- A token renders to what the lead has for its field. -/
theorem render (h : t.Stands before after text) (lead : Lead) :
    lead.render text = .ok (t.field.value lead) := by
  have hspells : t.Spells text.toList := spells_iff_padded.2 ⟨before, after, h.1⟩
  have hone : Scanned text.toList [.inr t] := by
    rw [← List.append_nil text.toList]
    exact .token hspells .nil
  rw [hone.render, Lead.fill, Token.value_of_plain hspells.isWritten h.2]
  simp [Lead.fill, bind, Except.bind, pure, Except.pure, Except.map]

theorem ne_empty (h : t.Stands before after text) : text ≠ "" := by
  rintro rfl
  obtain ⟨lead, joint, hpiece, -⟩ := h.1
  cases hpiece

/-- **A token in place of an address** stands for what the lead has, if it is on the list, and else
it is taken for the address. -/
theorem recipient (h : t.Stands before after (Text.trim configured)) (field : TokenField) :
    recipient (String.ofList field.word) override (some configured) own =
      if Text.trim (override.getD "") ≠ "" then Text.trim (override.getD "")
      else if t.IsListed field before after then Text.trim (own.getD "")
      else Text.trim configured := by
  unfold Cadence.recipient
  simp only [Option.getD_some, h.ne_empty, decide_false, Bool.false_or, List.contains_iff_mem,
    mem_tokenSpellings h]

end Token.Stands
end Cadence
