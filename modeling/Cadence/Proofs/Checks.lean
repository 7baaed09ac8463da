/-
# Computations that may fail

A computation in `Except` that ends well has ended well in all of its parts, and one that fails has
failed in the first part that does. The lemmas here take it apart, so that no proof has to unfold a
`do` block.

Key theorems: `bind_eq_ok`, `bind_eq_error`, `mapM_eq_ok`, `mapM_eq_error`, `filterMapM_eq_ok`.
-/
import Mathlib.Data.List.Forall2
import Mathlib.Tactic.Common

namespace Cadence

variable {ε α β : Type}

theorem bind_eq_ok {x : Except ε α} {f : α → Except ε β} {b : β} :
    (x >>= f) = .ok b ↔ ∃ a, x = .ok a ∧ f a = .ok b := by
  cases x with
  | error e =>
    constructor
    · intro h
      cases h
    · rintro ⟨a, h, -⟩
      cases h
  | ok a =>
    constructor
    · intro h
      exact ⟨a, rfl, h⟩
    · rintro ⟨a', h, hf⟩
      cases h
      exact hf

/-- What fails has failed in its first part, or behind it. -/
theorem bind_eq_error {x : Except ε α} {f : α → Except ε β} {e : ε} :
    (x >>= f) = .error e ↔ x = .error e ∨ ∃ a, x = .ok a ∧ f a = .error e := by
  cases x with
  | error e' =>
    constructor
    · intro h
      cases h
      exact Or.inl rfl
    · rintro (h | ⟨a, h, -⟩)
      · cases h
        rfl
      · cases h
  | ok a =>
    constructor
    · intro h
      exact Or.inr ⟨a, rfl, h⟩
    · rintro (h | ⟨a', h, hf⟩)
      · cases h
      · cases h
        exact hf

theorem map_eq_ok {x : Except ε α} {f : α → β} {b : β} :
    x.map f = .ok b ↔ ∃ a, x = .ok a ∧ f a = b := by
  cases x with
  | error e =>
    constructor
    · intro h
      cases h
    · rintro ⟨a, h, -⟩
      cases h
  | ok a =>
    constructor
    · intro h
      exact ⟨a, rfl, Except.ok.inj h⟩
    · rintro ⟨a', h, rfl⟩
      cases h
      rfl

/-- A list is gone through to its end if every item gives a result. -/
theorem mapM_eq_ok {f : α → Except ε β} : ∀ {l : List α} {r : List β},
    l.mapM f = .ok r ↔ List.Forall₂ (fun a b => f a = .ok b) l r
  | [], r => by
    rw [List.mapM_nil, List.forall₂_nil_left_iff]
    exact ⟨fun h => (Except.ok.inj h).symm, fun h => h ▸ rfl⟩
  | a :: l, r => by
    rw [List.mapM_cons, List.forall₂_cons_left_iff, bind_eq_ok]
    constructor
    · rintro ⟨b, hb, h⟩
      obtain ⟨rest, hr, h⟩ := bind_eq_ok.1 h
      exact ⟨b, rest, hb, mapM_eq_ok.1 hr, (Except.ok.inj h).symm⟩
    · rintro ⟨b, rest, hb, hr, rfl⟩
      exact ⟨b, hb, bind_eq_ok.2 ⟨rest, mapM_eq_ok.2 hr, rfl⟩⟩

/-- Going through a list fails at the first item that gives none. -/
theorem mapM_eq_error {f : α → Except ε β} {e : ε} : ∀ {l : List α}, l.mapM f = .error e ↔
    ∃ before a after, l = before ++ a :: after ∧ (∀ b ∈ before, ∃ c, f b = .ok c) ∧ f a = .error e
  | [] => by
    rw [List.mapM_nil]
    constructor
    · intro h
      cases h
    · rintro ⟨before, a, after, h, -⟩
      exact absurd h.symm (by simp)
  | a :: l => by
    have hrest : ∀ b, (l.mapM f >>= fun r => pure (b :: r)) = .error e ↔ l.mapM f = .error e := by
      intro b
      rw [bind_eq_error]
      refine ⟨fun h => h.resolve_right ?_, Or.inl⟩
      rintro ⟨r, -, hr⟩
      cases hr
    rw [List.mapM_cons, bind_eq_error]
    constructor
    · rintro (h | ⟨b, hb, h⟩)
      · exact ⟨[], a, l, rfl, fun _ h => absurd h List.not_mem_nil, h⟩
      · obtain ⟨before, a', after, rfl, hbefore, ha'⟩ := mapM_eq_error.1 ((hrest b).1 h)
        exact ⟨a :: before, a', after, rfl, List.forall_mem_cons.2 ⟨⟨b, hb⟩, hbefore⟩, ha'⟩
    · rintro ⟨before, a', after, hl, hbefore, ha'⟩
      cases before with
      | nil =>
        obtain ⟨rfl, -⟩ := List.cons.inj hl
        exact Or.inl ha'
      | cons b before =>
        obtain ⟨rfl, rfl⟩ := List.cons.inj hl
        obtain ⟨⟨c, hc⟩, hbefore⟩ := List.forall_mem_cons.1 hbefore
        exact Or.inr ⟨c, hc, (hrest c).2 (mapM_eq_error.2 ⟨before, a', after, rfl, hbefore, ha'⟩)⟩

/-- Picking items of a list by an answer on each: every item must have one, and the values of those
are picked for which it is yes. -/
theorem filterMapM_eq_ok {pick : α → Except ε (Option β)} {value : α → β}
    {answer : α → Option Bool} (hyes : ∀ a, answer a = some true → pick a = .ok (some (value a)))
    (hno : ∀ a, answer a = some false → pick a = .ok none)
    (hnone : ∀ a, answer a = none → ∃ e, pick a = .error e) : ∀ {l : List α} {r : List β},
    l.filterMapM pick = .ok r ↔
      (∀ a ∈ l, (answer a).isSome = true) ∧ r = (l.filter (answer · = some true)).map value
  | [], r => by
    rw [List.filterMapM_nil]
    exact ⟨fun h => ⟨fun _ ha => absurd ha List.not_mem_nil, (Except.ok.inj h).symm⟩,
      fun h => congrArg Except.ok h.2.symm⟩
  | a :: l, r => by
    have ih := fun rest => filterMapM_eq_ok hyes hno hnone (l := l) (r := rest)
    rw [List.filterMapM_cons, bind_eq_ok, List.forall_mem_cons]
    rcases ha : answer a with _ | _ | _
    · obtain ⟨e, he⟩ := hnone a ha
      rw [he]
      constructor
      · rintro ⟨o, ho, -⟩
        cases ho
      · rintro ⟨⟨hsome, -⟩, -⟩
        cases hsome
    · rw [hno a ha, List.filter_cons_of_neg (by rw [ha]; decide)]
      constructor
      · rintro ⟨o, ho, hrest⟩
        cases ho
        obtain ⟨hall, hr⟩ := (ih r).1 hrest
        exact ⟨⟨rfl, hall⟩, hr⟩
      · rintro ⟨⟨-, hall⟩, hr⟩
        exact ⟨none, rfl, (ih r).2 ⟨hall, hr⟩⟩
    · rw [hyes a ha, List.filter_cons_of_pos (by rw [ha]; decide), List.map_cons]
      constructor
      · rintro ⟨o, ho, hrest⟩
        cases ho
        obtain ⟨rest, hmore, hsame⟩ := bind_eq_ok.1 hrest
        cases hsame
        obtain ⟨hall, hr⟩ := (ih rest).1 hmore
        exact ⟨⟨rfl, hall⟩, by rw [hr]⟩
      · rintro ⟨⟨-, hall⟩, hr⟩
        refine ⟨some (value a), rfl, bind_eq_ok.2 ⟨_, (ih _).2 ⟨hall, rfl⟩, ?_⟩⟩
        rw [hr]
        rfl

section
variable {R : α → β → Prop} {l : List α} {r : List β}

/-- If every item stands for something, so does the list. -/
theorem exists_forall₂ : ∀ {l : List α}, (∀ a ∈ l, ∃ b, R a b) → ∃ r, List.Forall₂ R l r
  | [], _ => ⟨[], .nil⟩
  | a :: l, h => by
    rw [List.forall_mem_cons] at h
    obtain ⟨⟨b, hb⟩, hrest⟩ := h
    obtain ⟨r, hr⟩ := exists_forall₂ hrest
    exact ⟨b :: r, .cons hb hr⟩

theorem exists_of_mem_left (h : List.Forall₂ R l r) {a : α} (ha : a ∈ l) : ∃ b ∈ r, R a b := by
  induction h with
  | nil => exact absurd ha List.not_mem_nil
  | cons hone _ ih =>
    rcases List.mem_cons.1 ha with rfl | ha
    · exact ⟨_, List.mem_cons_self, hone⟩
    · obtain ⟨b, hb, hab⟩ := ih ha
      exact ⟨b, List.mem_cons_of_mem _ hb, hab⟩

theorem exists_of_mem_right (h : List.Forall₂ R l r) {b : β} (hb : b ∈ r) : ∃ a ∈ l, R a b :=
  exists_of_mem_left h.flip hb

end

end Cadence
