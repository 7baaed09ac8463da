/-
# Rendering is compositional

A text falls into characters and tokens in one way only: at each place, from the left, there is a
token or there is not (`Scanned`). Rendering puts something in the place of each token and leaves
the characters alone (`Scanned.render`), so whatever it puts in is never looked at again.

A token is found wherever it stands. What is read before it cannot reach into it, because the only
open braces of a token are its first two characters: a token from before would have to have the
braces of this one among its own (`readToken?_append`). So a text with a token in it falls apart
there, and so does its rendering (`Scanned.append`, `render_append`).

Rendering can fail, at a token that is written with a foreign i and nowhere else (`renders_iff`).

Key definitions: `Scanned`, `Lead.fill`.
Key theorems: `readToken?_append`, `Scanned.append`, `Scanned.render`, `Lead.render_append`,
`Lead.render_around`, `Lead.renders_iff`.
-/
import Cadence.Proofs.Lead.Spelled

namespace Cadence

/-- How a text falls into characters and tokens when it is read from the left. -/
inductive Scanned : List Char → List (Char ⊕ Token) → Prop
  | nil : Scanned [] []
  | char {c : Char} {cs : List Char} {parts : List (Char ⊕ Token)} :
      readToken? (c :: cs) = none → Scanned cs parts → Scanned (c :: cs) (.inl c :: parts)
  | token {t : Token} {piece cs : List Char} {parts : List (Char ⊕ Token)} :
      t.Spells piece → Scanned cs parts → Scanned (piece ++ cs) (.inr t :: parts)

/-- Characters with what the tokens between them stand for, or the word of the first token that
stands for nothing. -/
def Lead.fill (lead : Lead) : List (Char ⊕ Token) → Except String (List Char)
  | [] => .ok []
  | .inl c :: parts => do return c :: (← lead.fill parts)
  | .inr t :: parts => do
    let value ← t.value lead
    return value.toList ++ (← lead.fill parts)

variable {t : Token} {piece a b cs : List Char} {ps qs parts : List (Char ⊕ Token)}

/-! ### Scanning -/

/-- Where no token starts, none does if a token is put behind: what would be read is a token of the
text itself, or it has more than two open braces or its open braces are not next to each other. -/
theorem readToken?_append {c : Char} (h : readToken? (c :: a) = none) (ht : t.Spells piece) :
    readToken? (c :: a ++ (piece ++ b)) = none := by
  refine Option.eq_none_iff_forall_not_mem.2 fun (u, rest) hu => ?_
  obtain ⟨piece', hspells, heq⟩ := readToken?_eq_some.1 hu
  have hwhole : ∀ rest', c :: a = piece' ++ rest' → False := fun rest' heq' => by
    rw [readToken?_eq_some.2 ⟨piece', hspells, heq'⟩] at h
    cases h
  obtain ⟨inner, rfl, -, hinner⟩ := ht.braces
  obtain ⟨inner', rfl, hne, hinner'⟩ := hspells.braces
  rcases List.append_eq_append_iff.1 heq with ⟨more, hmore, hrest⟩ | ⟨more, hmore, -⟩
  · cases more with
    | nil => exact hwhole [] (by rw [hmore, List.append_nil, List.append_nil])
    | cons x more =>
      -- the token that is read goes on with the first brace of the one put behind
      obtain ⟨rfl, hbehind⟩ := List.cons.inj hrest
      obtain ⟨-, htail⟩ := List.cons.inj hmore
      cases a with
      | nil =>
        obtain ⟨-, rfl⟩ := List.cons.inj htail
        cases inner' with
        | nil => exact hne rfl
        | cons y inner' =>
          obtain ⟨rfl, -⟩ := List.cons.inj hbehind
          exact hinner' List.mem_cons_self
      | cons d a =>
        obtain ⟨-, rfl⟩ := List.cons.inj htail
        exact hinner' (List.mem_append_right _ List.mem_cons_self)
  · exact hwhole more hmore

namespace Scanned

/-- Every text falls into characters and tokens. -/
theorem exists_parts : ∀ cs : List Char, ∃ parts, Scanned cs parts
  | [] => ⟨[], .nil⟩
  | c :: cs => by
    cases h : readToken? (c :: cs) with
    | none =>
      obtain ⟨parts, hparts⟩ := exists_parts cs
      exact ⟨_, .char h hparts⟩
    | some p =>
      obtain ⟨piece, hspells, heq⟩ := readToken?_eq_some.1 h
      have hlength : p.2.length < (c :: cs).length := by
        obtain ⟨inner, rfl, -⟩ := hspells.braces
        simp only [heq, List.length_append, List.length_cons]
        omega
      obtain ⟨parts, hparts⟩ := exists_parts p.2
      rw [heq]
      exact ⟨_, .token hspells hparts⟩
termination_by cs => cs.length
decreasing_by
  · exact Nat.lt_succ_self _
  · exact hlength

/-- **A token is found wherever it stands**, and what stands before and after it is read as it would
be on its own. -/
theorem append (ha : Scanned a ps) (ht : t.Spells piece) (hb : Scanned b qs) :
    Scanned (a ++ (piece ++ b)) (ps ++ .inr t :: qs) := by
  induction ha with
  | nil => exact show Scanned (piece ++ b) (.inr t :: qs) from .token ht hb
  | char hnone _ ih => exact .char (readToken?_append hnone ht) ih
  | @token u piece' cs parts hspells _ ih =>
    rw [List.append_assoc]
    exact .token hspells ih

/-- A text can be taken apart at each of its tokens. -/
theorem split : ∀ {ps : List (Char ⊕ Token)} {cs : List Char}, Scanned cs (ps ++ .inr t :: qs) →
    ∃ a piece b, cs = a ++ (piece ++ b) ∧ Scanned a ps ∧ t.Spells piece ∧ Scanned b qs
  | [], _, h => by
    cases h with
    | @token _ piece b _ ht hb => exact ⟨[], piece, b, rfl, .nil, ht, hb⟩
  | .inl c :: ps, _, h => by
    cases h with
    | char hnone h =>
      obtain ⟨a, piece, b, rfl, ha, ht, hb⟩ := split h
      refine ⟨c :: a, piece, b, rfl, .char ?_ ha, ht, hb⟩
      refine Option.eq_none_iff_forall_not_mem.2 fun (u, rest) hu => ?_
      obtain ⟨piece', hspells, heq⟩ := readToken?_eq_some.1 hu
      have hread := readToken?_eq_some.2 ⟨piece', hspells,
        show c :: (a ++ (piece ++ b)) = piece' ++ (rest ++ (piece ++ b)) by
          rw [← List.cons_append, heq, List.append_assoc]⟩
      rw [hnone] at hread
      cases hread
  | .inr u :: ps, _, h => by
    cases h with
    | @token _ piece' _ _ hspells h =>
      obtain ⟨a, piece, b, rfl, ha, ht, hb⟩ := split h
      exact ⟨piece' ++ a, piece, b, by rw [List.append_assoc], .token hspells ha, ht, hb⟩

/-- **Rendering fills what a text falls into.** As many steps as there are characters are enough. -/
theorem renderChars (h : Scanned cs parts) (lead : Lead) :
    ∀ {steps : Nat}, cs.length ≤ steps → lead.renderChars steps cs = lead.fill parts := by
  induction h with
  | nil =>
    rintro (_ | steps) _
    · rfl
    · rfl
  | @char c cs parts hnone _ ih =>
    rintro (_ | steps) hsteps
    · cases hsteps
    · unfold Lead.renderChars Lead.fill
      rw [hnone]
      simp only [ih (Nat.le_of_succ_le_succ hsteps)]
  | @token t piece cs parts ht _ ih =>
    have hread : readToken? (piece ++ cs) = some (t, cs) := readToken?_eq_some.2 ⟨_, ht, rfl⟩
    obtain ⟨inner, rfl, -⟩ := ht.braces
    rintro (_ | steps) hsteps
    · cases hsteps
    · simp only [List.cons_append, List.length_cons, List.length_append] at hsteps hread ⊢
      unfold Lead.renderChars Lead.fill
      rw [hread]
      simp only [ih (show cs.length ≤ steps by omega)]

theorem render {text : String} (h : Scanned text.toList parts) (lead : Lead) :
    lead.render text = (lead.fill parts).map String.ofList := by
  rw [Lead.render, h.renderChars lead (Nat.le_of_eq text.length_toList)]

end Scanned

namespace Lead

variable (lead : Lead)

/-! ### Filling -/

theorem fill_append : ∀ ps qs : List (Char ⊕ Token), lead.fill (ps ++ qs) = do
    let x ← lead.fill ps
    let y ← lead.fill qs
    return x ++ y
  | [], qs => by
    show lead.fill qs = _
    rw [fill]
    cases lead.fill qs <;> rfl
  | .inl c :: ps, qs => by
    rw [List.cons_append, fill, fill, fill_append ps qs]
    cases lead.fill ps <;> cases lead.fill qs <;> rfl
  | .inr t :: ps, qs => by
    rw [List.cons_append, fill, fill, fill_append ps qs]
    cases t.value lead <;> cases lead.fill ps <;> cases lead.fill qs <;>
      simp [bind, Except.bind, pure, Except.pure]

/-- Filling fails at the first token that stands for nothing. -/
theorem fill_eq_error {word : String} : ∀ {parts : List (Char ⊕ Token)},
    lead.fill parts = .error word → ∃ ps t qs, parts = ps ++ .inr t :: qs ∧
      (∃ x, lead.fill ps = .ok x) ∧ t.value lead = .error word
  | [], h => by cases h
  | .inl c :: parts, h => by
    rcases bind_eq_error.1 h with h | ⟨_, -, h⟩
    · obtain ⟨ps, t, qs, rfl, ⟨x, hx⟩, ht⟩ := fill_eq_error h
      exact ⟨.inl c :: ps, t, qs, rfl, ⟨c :: x, by rw [fill, hx]; rfl⟩, ht⟩
    · cases h
  | .inr u :: parts, h => by
    rcases bind_eq_error.1 h with h | ⟨v, hv, h⟩
    · exact ⟨[], u, parts, rfl, ⟨[], rfl⟩, h⟩
    rcases bind_eq_error.1 h with h | ⟨_, -, h⟩
    · obtain ⟨ps, t, qs, rfl, ⟨x, hx⟩, ht⟩ := fill_eq_error h
      exact ⟨.inr u :: ps, t, qs, rfl, ⟨v.toList ++ x, by rw [fill, hv, hx]; rfl⟩, ht⟩
    · cases h

/-! ### Rendering -/

/-- A text that falls into three parts is these three texts. -/
theorem eq_of_toList {text : String} (h : text.toList = a ++ (piece ++ b)) :
    text = String.ofList a ++ String.ofList piece ++ String.ofList b := by
  rw [← String.toList_inj, h]
  simp

/-- **A text renders to what its parts before and after a token render to**, with what the token
stands for between them; where a part or the token fails, so does the text, for the first of
them. -/
theorem render_append {x t y : String} {token : Token} (ht : token.Spells t.toList) :
    lead.render (x ++ t ++ y) = do
      let before ← lead.render x
      let value ← token.value lead
      let after ← lead.render y
      return before ++ value ++ after := by
  obtain ⟨ps, hx⟩ := Scanned.exists_parts x.toList
  obtain ⟨qs, hy⟩ := Scanned.exists_parts y.toList
  have hwhole : Scanned (x ++ t ++ y).toList (ps ++ .inr token :: qs) := by
    rw [String.toList_append, String.toList_append, List.append_assoc]
    exact hx.append ht hy
  rw [hwhole.render, hx.render, hy.render, fill_append, fill]
  cases lead.fill ps <;> cases token.value lead <;> cases lead.fill qs <;>
    simp [bind, Except.bind, pure, Except.pure, Except.map, String.append_assoc]

/-- **Text around a token never combines with it.** For a token in ASCII characters a text renders
exactly if what stands before and after the token does, and then the value of the lead's field
stands between the two renderings as it is, whatever it holds. -/
theorem render_around {x t y : String} {token : Token} (ht : token.Spells t.toList)
    (hascii : ∀ c ∈ t.toList, c.toNat < 128) (out : String) :
    lead.render (x ++ t ++ y) = .ok out ↔ ∃ before after, lead.render x = .ok before ∧
      lead.render y = .ok after ∧ out = before ++ token.field.value lead ++ after := by
  have hplain : ¬ token.IsForeign := by
    rintro ⟨c, hc, hforeign⟩
    have hsmall := hascii c (ht.written_subset hc)
    simp only [foreignForms, List.mem_cons, List.not_mem_nil, or_false] at hforeign
    rcases hforeign with rfl | rfl <;> exact absurd hsmall (by decide)
  rw [lead.render_append ht, Token.value_of_plain ht.isWritten hplain]
  constructor
  · intro h
    obtain ⟨before, hx, h⟩ := bind_eq_ok.1 h
    obtain ⟨value, hvalue, h⟩ := bind_eq_ok.1 h
    obtain ⟨after, hy, h⟩ := bind_eq_ok.1 h
    rw [Except.ok.inj hvalue]
    exact ⟨before, after, hx, hy, (Except.ok.inj h).symm⟩
  · rintro ⟨before, after, hx, hy, rfl⟩
    rw [hx, hy]
    rfl

namespace Sample

/-- A lead whose name is text of a token. -/
def sly : Lead := { unknown with name := some "\x7b\x7blead.email\x7d\x7d" }

end Sample

/-- The name is put in as it is, and the braces around the token stay where they are. -/
theorem render_around_braces : Sample.sly.render
    ("\x7b\x7b " ++ "\x7b\x7b LEAD_Name\t\x7d\x7d" ++ " \x7d\x7d\x7b\x7blead.") =
      .ok "\x7b\x7b \x7b\x7blead.email\x7d\x7d \x7d\x7d\x7b\x7blead." := by
  have htoken : Token.Spells ⟨.name, "Name".toList⟩ "\x7b\x7b LEAD_Name\t\x7d\x7d".toList := by
    decide
  have hascii : ("\x7b\x7b LEAD_Name\t\x7d\x7d".toList.all fun c => c.toNat < 128) = true := by
    decide
  exact (Sample.sly.render_around htoken
    (fun c hc => of_decide_eq_true (List.all_eq_true.1 hascii c hc)) _).2
    ⟨"\x7b\x7b ", " \x7d\x7d\x7b\x7blead.", by decide, by decide, by decide⟩

/-- What does not render has a token with a foreign i, and fails with the word that the first of
them is written with. -/
theorem foreign_of_render {text word : String} (h : lead.render text = .error word) :
    word ∈ ["ema\u0131l", "emai\u0307l"] ∧
      ∃ (x piece y : String) (t : Token), text = x ++ piece ++ y ∧ t.Spells piece.toList ∧
        t.IsForeign ∧ t.lowered = word ∧ ∃ before, lead.render x = .ok before := by
  obtain ⟨parts, hparts⟩ := Scanned.exists_parts text.toList
  have hfill : lead.fill parts = .error word := by
    rw [hparts.render] at h
    cases hfill : lead.fill parts with
    | error word' =>
      rw [hfill] at h
      exact congrArg _ (Except.error.inj h)
    | ok cs =>
      rw [hfill] at h
      cases h
  obtain ⟨ps, t, qs, rfl, ⟨before, hbefore⟩, hvalue⟩ := lead.fill_eq_error hfill
  obtain ⟨x, piece, y, hsplit, hx, ht, -⟩ := hparts.split
  have hforeign : t.IsForeign := by
    by_contra hplain
    rw [Token.value_of_plain ht.isWritten hplain] at hvalue
    cases hvalue
  obtain ⟨hlowered, hwords⟩ := Token.value_of_foreign ht.isWritten hforeign lead
  obtain rfl := Except.error.inj (hlowered.symm.trans hvalue)
  refine ⟨hwords, String.ofList x, String.ofList piece, String.ofList y, t, eq_of_toList hsplit, ?_,
    hforeign, rfl, String.ofList before, ?_⟩
  · rwa [String.toList_ofList]
  · rw [Scanned.render (by rwa [String.toList_ofList]), hbefore]
    rfl

/-- **A text renders exactly if all its tokens name fields of a lead**, and these are the tokens
that are written without a foreign i. Else it fails for the first one that is written with one. -/
theorem renders_iff (text : String) :
    ((∃ out, lead.render text = .ok out) ↔ ∀ (t : Token) (piece : List Char), t.Spells piece →
      piece <:+: text.toList → t.lowered ∈ ["name", "email", "phone"]) ∧
    (∀ (t : Token) (piece : List Char), t.Spells piece →
      (t.lowered ∈ ["name", "email", "phone"] ↔ ¬ t.IsForeign)) ∧
    ∀ word, lead.render text = .error word → word ∈ ["ema\u0131l", "emai\u0307l"] ∧
      ∃ (x piece y : String) (t : Token), text = x ++ piece ++ y ∧ t.Spells piece.toList ∧
        t.IsForeign ∧ t.lowered = word ∧ ∃ before, lead.render x = .ok before := by
  have hnamed : ∀ (t : Token) (piece : List Char), t.Spells piece →
      (t.lowered ∈ ["name", "email", "phone"] ↔ ¬ t.IsForeign) := fun t piece h =>
    Token.lowered_mem_iff h.isWritten
  refine ⟨⟨?_, ?_⟩, hnamed, fun word => lead.foreign_of_render⟩
  · rintro ⟨out, hout⟩ t piece ht ⟨x, y, hsplit⟩
    refine (hnamed t piece ht).2 fun hforeign => ?_
    rw [List.append_assoc] at hsplit
    rw [eq_of_toList hsplit.symm, lead.render_append (by rwa [String.toList_ofList])] at hout
    obtain ⟨_, -, hout⟩ := bind_eq_ok.1 hout
    obtain ⟨value, hvalue, -⟩ := bind_eq_ok.1 hout
    rw [(Token.value_of_foreign ht.isWritten hforeign lead).1] at hvalue
    cases hvalue
  · intro h
    cases hout : lead.render text with
    | ok out => exact ⟨out, rfl⟩
    | error word =>
      obtain ⟨-, x, piece, y, t, rfl, ht, hforeign, -⟩ := lead.foreign_of_render hout
      refine absurd hforeign ((hnamed t _ ht).1 (h t piece.toList ht ⟨x.toList, y.toList, ?_⟩))
      rw [String.toList_append, String.toList_append]

/-- A token with a dotless i is recognised, and there is no such field. -/
theorem dotless_token_fails : ¬ ∃ out,
    ({ unknown with email := some "ada@example.org" } : Lead).render
      "\x7b\x7blead.ema\u0131l\x7d\x7d" = .ok out := by
  have herror : ({ unknown with email := some "ada@example.org" } : Lead).render
      "\x7b\x7blead.ema\u0131l\x7d\x7d" = .error "ema\u0131l" := by decide +kernel
  rw [herror]
  rintro ⟨out, h⟩
  cases h

/-- The token before it is rendered, and the one with the dotted capital i is where the text
fails. -/
theorem renders_iff_dotted : ∃ (x piece y : String) (t : Token),
    "\x7b\x7blead.name\x7d\x7d, \x7b\x7bLEAD.EMA\u0130L\x7d\x7d" = x ++ piece ++ y ∧
      t.Spells piece.toList ∧ t.IsForeign ∧ t.lowered = "emai\u0307l" ∧
        ∃ before, Sample.sly.render x = .ok before :=
  ((Sample.sly.renders_iff "\x7b\x7blead.name\x7d\x7d, \x7b\x7bLEAD.EMA\u0130L\x7d\x7d").2.2
    "emai\u0307l" (by decide +kernel)).2

end Lead
end Cadence
