/-
# Which definitions are a line

`Definition.IsLine` says what it is for a graph to be one line, without a word about walking it: ids
that tell the nodes apart, one trigger, edges between nodes, at most one of them out of a node and
exactly one into every node but the trigger, and every node within reach of the trigger. With data
as the types ask for it, these are the definitions that have a chain, and the chain is that line
(`linearize_iff_isRunnable`).

The degrees make `Leads` a partial injection, so a walk never comes back to a node that it took: the
node would have a second entry, or the trigger one. So it ends (`exists_walk`), and that is where no
edge leads on. A walk that ends has followed the edges one by one (`Walked.pairs`), and what it did not
meet is not reachable (`mem_of_walk`).

Key definitions: `exits`, `Leads`, `pairs`, `Definition.IsLine`, `Definition.IsRunnable`,
`Definition.LinesUp`, `Definition.Sifted`, `Definition.IsLaid`.
Key theorems: `exists_walk`, `Walked.pairs`, `mem_of_walk`, `Definition.sifted_iff`,
`Definition.IsLine.line`, `Definition.line_sound`, `Definition.linearize_iff_isRunnable`.
-/
import Cadence.Proofs.Workflow.Linear
import Mathlib.Data.List.Nodup
import Mathlib.Logic.Relation

namespace Cadence
namespace Workflow

/-- The number of edges out of a node. -/
def exits (edges : List Edge) (id : String) : Nat := edges.countP (·.source = id)

/-- An edge leads from one node to another. -/
def Leads (edges : List Edge) (a b : String) : Prop := ∃ e ∈ edges, e.source = a ∧ e.target = b

/-- Every member of a list with the one after it. -/
def pairs {α : Type} (l : List α) : List (α × α) := l.zip l.tail

/-- The graph of a definition is one line that starts at its trigger. -/
structure Definition.IsLine (d : Definition) : Prop where
  named : ∀ n ∈ d.nodes, Text.isBlankText n.id = false
  distinct : (d.nodes.map (·.id)).Nodup
  sole : d.nodes.countP (·.type ∈ startingTypes) = 1
  joined : ∀ e ∈ d.edges, e.source ∈ d.nodes.map (·.id) ∧ e.target ∈ d.nodes.map (·.id)
  left : ∀ n ∈ d.nodes, exits d.edges n.id ≤ 1
  entered : ∀ n ∈ d.nodes, entries d.edges n.id = if n.type ∈ startingTypes then 0 else 1
  reached : ∀ t ∈ d.nodes, t.type ∈ startingTypes →
    ∀ n ∈ d.nodes, Relation.ReflTransGen (Leads d.edges) t.id n.id

/-- A definition is one line, and every node has the data that its type asks for. -/
structure Definition.IsRunnable (d : Definition) : Prop extends d.IsLine where
  complete : ∀ n ∈ d.nodes, ∃ config, Configured n config

/-- Nodes are those of a definition, from its trigger on, and next to each other as its edges join
them, each edge once. -/
structure Definition.LinesUp (d : Definition) (line : List Node) : Prop where
  perm : line.Perm d.nodes
  starts : ∃ trigger, line.head? = some trigger ∧ trigger.type ∈ startingTypes
  edges : (pairs (line.map (·.id))).Perm (d.edges.map fun e => (e.source, e.target))

/-- What the checks before the walk make sure of, with a node as the trigger. -/
structure Definition.Sifted (d : Definition) (t : Node) : Prop where
  named : ∀ n ∈ d.nodes, Text.isBlankText n.id = false
  distinct : (d.nodes.map (·.id)).Nodup
  sole : d.nodes.filter (fun n => startingTypes.contains n.type) = [t]
  joined : ∀ e ∈ d.edges, e.source ∈ d.nodes.map (·.id) ∧ e.target ∈ d.nodes.map (·.id)
  sources : (d.edges.map (·.source)).Nodup
  entered : ∀ n ∈ d.nodes, entries d.edges n.id = if n.id = t.id then 0 else 1

/-- A chain lays a definition out: its nodes are those of the definition in some order, from the
trigger on, each as its own data configures it, and those next to each other are the ones that the
edges join, each edge once. -/
structure Definition.IsLaid (d : Definition) (chain : Chain) : Prop where
  nodes : ∃ line : List Node, line.Perm d.nodes ∧ List.Forall₂
    (fun n m => m.id = n.id ∧ m.type = n.type ∧ Configured n m.config) line chain.nodes
  starts : chain.nodes.head? = some chain.trigger ∧ chain.trigger.type ∈ startingTypes
  edges : (pairs (chain.nodes.map (·.id))).Perm (d.edges.map fun e => (e.source, e.target))

/-! ### Edges by their ends -/

section
variable {edges : List Edge} {a b c : String}

theorem Leads.next (h : Leads edges a b) (hnodup : (edges.map (·.source)).Nodup)
    (h' : Leads edges a c) : b = c := by
  obtain ⟨e, he, hs, ht⟩ := h
  obtain ⟨e', he', hs', ht'⟩ := h'
  rw [← ht, ← ht', List.inj_on_of_nodup_map hnodup he he' (hs.trans hs'.symm)]

theorem Leads.back (h : Leads edges a c) (hnodup : (edges.map (·.target)).Nodup)
    (h' : Leads edges b c) : a = b := by
  obtain ⟨e, he, hs, ht⟩ := h
  obtain ⟨e', he', hs', ht'⟩ := h'
  rw [← hs, ← hs', List.inj_on_of_nodup_map hnodup he he' (ht.trans ht'.symm)]

theorem leads_of_next? (h : next? edges a = some b) : Leads edges a b := by
  obtain ⟨e, he, ht⟩ := Option.map_eq_some_iff.1 h
  have hs := List.find?_some he
  exact ⟨e, List.mem_of_find?_eq_some he, of_decide_eq_true hs, ht⟩

theorem not_leads_of_next? (h : next? edges a = none) : ¬ Leads edges a b := by
  rintro ⟨e, he, hs, -⟩
  have hnone := List.find?_eq_none.1 (Option.map_eq_none_iff.1 h) e he
  exact hnone (decide_eq_true hs)

/-- Where no node has two exits, the next node is the one that an edge leads to. -/
theorem next?_eq_some (hnodup : (edges.map (·.source)).Nodup) :
    next? edges a = some b ↔ Leads edges a b := by
  refine ⟨leads_of_next?, fun h => ?_⟩
  cases hn : next? edges a with
  | none => exact absurd h (not_leads_of_next? hn)
  | some c => rw [h.next hnodup (leads_of_next? hn)]

theorem mem_map_ends : (a, b) ∈ edges.map (fun e => (e.source, e.target)) ↔ Leads edges a b := by
  simp only [Leads, List.mem_map, Prod.mk.injEq]

theorem entries_eq_count (id : String) : entries edges id = (edges.map (·.target)).count id := by
  rw [entries, List.count, List.countP_map]
  rfl

theorem exits_eq_count (id : String) : exits edges id = (edges.map (·.source)).count id := by
  rw [exits, List.count, List.countP_map]
  rfl

end

/-! ### The checks -/

theorem soleTrigger_eq_ok {nodes : List Node} {t : Node} :
    soleTrigger nodes = .ok t ↔ nodes.filter (fun n => startingTypes.contains n.type) = [t] := by
  unfold soleTrigger
  split
  · rename_i u hu
    rw [hu, List.cons.injEq, Except.ok.injEq]
    simp
  · rename_i hnot
    exact ⟨fun h => absurd h (by simp), fun h => absurd h (hnot t)⟩

/-- The edges are fine if they join nodes, and no two leave the same one or one left before. -/
theorem checkEdges_eq_ok {ids : List String} (hids : "" ∉ ids) : ∀ {edges : List Edge}
    {left : List String}, checkEdges ids left edges = .ok () ↔
      (∀ e ∈ edges, e.source ∈ ids ∧ e.target ∈ ids) ∧ (edges.map (·.source)).Nodup ∧
        ∀ e ∈ edges, e.source ∉ left
  | [], _ => by simp [checkEdges]
  | e :: rest, left => by
    have ih := @checkEdges_eq_ok ids hids rest (e.source :: left)
    have hapart : (∀ f ∈ rest, f.source ∉ e.source :: left) ↔
        e.source ∉ rest.map (·.source) ∧ ∀ f ∈ rest, f.source ∉ left := by
      simp only [List.mem_cons, not_or, List.mem_map, not_exists, not_and]
      exact ⟨fun h => ⟨fun f hf => (h f hf).1, fun f hf => (h f hf).2⟩,
        fun h f hf => ⟨h.1 f hf, h.2 f hf⟩⟩
    unfold checkEdges
    rw [List.map_cons, List.nodup_cons, List.forall_mem_cons, List.forall_mem_cons]
    by_cases hs : e.source ∈ ids
    · by_cases ht : e.target ∈ ids
      · have hs' : e.source ≠ "" := fun h => hids (h ▸ hs)
        have ht' : e.target ≠ "" := fun h => hids (h ▸ ht)
        by_cases hl : e.source ∈ left
        · simp [hs, ht, hs', ht', hl]
        · simp only [hs, ht, hs', ht', hl, List.contains_eq_mem, decide_false, decide_true,
            Bool.false_eq_true, if_false, ih, hapart, Bool.or_self, Bool.not_true]
          tauto
      · by_cases hends : e.source = "" ∨ e.target = ""
        · simp [hends, ht]
        · simp [hends, hs, ht]
    · by_cases hends : e.source = "" ∨ e.target = ""
      · simp [hends, hs]
      · simp [hends, hs]

theorem checkEntries_eq_ok {trigger : String} {edges : List Edge} : ∀ {nodes : List Node},
    checkEntries trigger edges nodes = .ok () ↔
      ∀ n ∈ nodes, entries edges n.id = if n.id = trigger then 0 else 1
  | [] => by simp [checkEntries]
  | n :: rest => by
    have ih := @checkEntries_eq_ok trigger edges rest
    unfold checkEntries
    rw [List.forall_mem_cons]
    by_cases htrigger : n.id = trigger
    · rw [if_pos htrigger, if_pos htrigger]
      by_cases hzero : entries edges n.id = 0
      · rw [if_pos hzero, ih]
        exact (and_iff_right hzero).symm
      · simp [hzero]
    · rw [if_neg htrigger, if_neg htrigger]
      by_cases hone : entries edges n.id = 1
      · rw [if_pos hone, ih]
        exact (and_iff_right hone).symm
      · simp [hone]

/-! ### The walk -/

/-- **A walk comes to an end**, if no two edges enter one node and none leads back to where it
starts: it never has to look for a node that it took before. -/
theorem exists_walk {edges : List Edge} (htarget : (edges.map (·.target)).Nodup) :
    ∀ {steps : Nat} {left : List Node} {id : String}, left.length ≤ steps →
    (left.map (·.id)).Nodup → id ∈ left.map (·.id) →
    (∀ a b, Leads edges a b → a ∈ left.map (·.id) → b ∈ left.map (·.id) ∧ b ≠ id) →
    ∃ met rest, walk edges steps left id = .ok (met, rest)
  | 0, left, id, hsteps, _, hid, _ => by
    rw [List.eq_nil_of_length_eq_zero (Nat.le_zero.1 hsteps)] at hid
    exact absurd hid List.not_mem_nil
  | steps + 1, left, id, hsteps, hnodup, hid, hahead => by
    obtain ⟨n, hfind⟩ : ∃ n, left.find? (fun n => n.id = id) = some n := by
      obtain ⟨m, hm, hmid⟩ := List.mem_map.1 hid
      exact Option.isSome_iff_exists.1 (List.find?_isSome.2 ⟨m, hm, decide_eq_true hmid⟩)
    have hnid := id_of_find? hfind
    have hperm := perm_cons_eraseP hfind
    unfold walk
    rw [hfind]
    simp only
    generalize left.eraseP (fun n => decide (n.id = id)) = rest at hperm ⊢
    have hids : ∀ a, a ∈ left.map (·.id) ↔ a = id ∨ a ∈ rest.map (·.id) := fun a => by
      rw [← (hperm.map _).mem_iff, List.map_cons, List.mem_cons, hnid]
    obtain ⟨hfresh, hrest⟩ : id ∉ rest.map (·.id) ∧ (rest.map (·.id)).Nodup := by
      rw [← (hperm.map _).nodup_iff, List.map_cons, List.nodup_cons, hnid] at hnodup
      exact hnodup
    cases hnext : next? edges id with
    | none => exact ⟨[n], rest, rfl⟩
    | some next =>
      have hleads := leads_of_next? hnext
      obtain ⟨hin, hne⟩ := hahead id next hleads hid
      obtain ⟨met, left', hmet⟩ : ∃ met left', walk edges steps rest next = .ok (met, left') := by
        refine exists_walk htarget ?_ hrest (((hids next).1 hin).resolve_left hne) ?_
        · have hlength := hperm.length_eq
          rw [List.length_cons] at hlength
          omega
        · intro a b hab ha
          obtain ⟨hb, hbid⟩ := hahead a b hab ((hids a).2 (Or.inr ha))
          refine ⟨((hids b).1 hb).resolve_left hbid, ?_⟩
          -- the next node has one entry, and that is from the node just taken
          rintro rfl
          exact hfresh (hab.back htarget hleads ▸ ha)
      refine ⟨n :: met, left', ?_⟩
      simp only [hmet]
      rfl

theorem pairs_cons_cons {α : Type} (a b : α) (l : List α) :
    pairs (a :: b :: l) = (a, b) :: pairs (b :: l) := rfl

/-- **A walk follows the edges**: it starts where it is to start, each node after another is the next
one of it, and where it ends there is no next one. -/
theorem Walked.pairs {edges : List Edge} {left met rest : List Node} {id : String}
    (h : Walked edges left id met rest) : (∃ ids, met.map (·.id) = id :: ids) ∧
      ∀ a b, (a, b) ∈ pairs (met.map (·.id)) ↔ a ∈ met.map (·.id) ∧ next? edges a = some b := by
  induction h with
  | @ends left id n hn hnone =>
    have hnid := id_of_find? hn
    refine ⟨⟨[], by rw [List.map_singleton, hnid]⟩, fun a b => ?_⟩
    rw [List.map_singleton, List.mem_singleton, hnid]
    refine ⟨fun hmem => absurd hmem (by simp [Workflow.pairs]), ?_⟩
    rintro ⟨rfl, hb⟩
    rw [hnone] at hb
    cases hb
  | @leads left met rest id next n hn hnext _ ih =>
    have hnid := id_of_find? hn
    obtain ⟨⟨ids, hids⟩, hpairs⟩ := ih
    refine ⟨⟨_, by rw [List.map_cons, hnid]⟩, fun a b => ?_⟩
    rw [List.map_cons, hnid, List.mem_cons, hids, pairs_cons_cons, ← hids, List.mem_cons, hpairs,
      Prod.mk.injEq]
    constructor
    · rintro (⟨rfl, rfl⟩ | ⟨ha, hb⟩)
      · exact ⟨Or.inl rfl, hnext⟩
      · exact ⟨Or.inr ha, hb⟩
    · rintro ⟨rfl | ha, hb⟩
      · exact Or.inl ⟨rfl, Option.some.inj (hb.symm.trans hnext)⟩
      · exact Or.inr ⟨ha, hb⟩

/-- **A walk meets every node that can be reached**, if no two edges leave one node. -/
theorem mem_of_walk {edges : List Edge} (hsource : (edges.map (·.source)).Nodup) {steps : Nat}
    {left met rest : List Node} {id : String} (hw : walk edges steps left id = .ok (met, rest))
    {b : String} (hb : Relation.ReflTransGen (Leads edges) id b) : b ∈ met.map (·.id) := by
  obtain ⟨⟨ids, hids⟩, hpairs⟩ := (walked_of_walk hw).pairs
  induction hb with
  | refl =>
    rw [hids]
    exact List.mem_cons_self
  | @tail b c _ hleads ih =>
    have hpair := (hpairs b c).2 ⟨ih, (next?_eq_some hsource).2 hleads⟩
    exact List.mem_of_mem_tail (List.of_mem_zip hpair).2

theorem nodup_pairs {α : Type} : ∀ {l : List α}, l.Nodup → (pairs l).Nodup
  | [], _ => List.nodup_nil
  | [_], _ => List.nodup_nil
  | a :: b :: l, h => by
    obtain ⟨ha, h⟩ := List.nodup_cons.1 h
    rw [pairs_cons_cons, List.nodup_cons]
    exact ⟨fun hmem => ha (List.of_mem_zip hmem).1, nodup_pairs h⟩

/-- Every member of a list is reached from the first one if each leads to the one after it. -/
theorem reaches_of_pairs {R : String → String → Prop} : ∀ {ids : List String} {a : String},
    (∀ x y, (x, y) ∈ pairs (a :: ids) → R x y) →
      ∀ b ∈ a :: ids, Relation.ReflTransGen R a b
  | [], a, _, b, hb => by
    rw [List.mem_singleton.1 hb]
  | c :: ids, a, h, b, hb => by
    rw [pairs_cons_cons] at h
    rcases List.mem_cons.1 hb with rfl | hb
    · exact .refl
    · exact .head (h a c List.mem_cons_self)
        (reaches_of_pairs (fun x y hxy => h x y (List.mem_cons_of_mem _ hxy)) b hb)

/-! ### The line -/

theorem nodup_of_count {l ids : List String} (hsub : ∀ a ∈ l, a ∈ ids)
    (h : ∀ a ∈ ids, l.count a ≤ 1) : l.Nodup := by
  refine List.nodup_iff_count_le_one.2 fun a => ?_
  by_cases ha : a ∈ l
  · exact h a (hsub a ha)
  · rw [List.count_eq_zero_of_not_mem ha]
    exact Nat.zero_le 1

/-- The nodes that start a workflow are the one that is the trigger. -/
theorem starting_iff {nodes : List Node} {t : Node} (hids : (nodes.map (·.id)).Nodup)
    (hsole : nodes.filter (fun n => startingTypes.contains n.type) = [t]) {n : Node}
    (hn : n ∈ nodes) : n.type ∈ startingTypes ↔ n.id = t.id := by
  have hmem : ∀ m, m ∈ nodes ∧ m.type ∈ startingTypes ↔ m = t := fun m => by
    rw [← List.mem_singleton, ← hsole, List.mem_filter, List.contains_iff_mem]
  constructor
  · intro htype
    rw [(hmem n).1 ⟨hn, htype⟩]
  · intro hid
    obtain ⟨ht, htype⟩ := (hmem t).2 rfl
    rw [List.inj_on_of_nodup_map hids hn ht hid]
    exact htype

namespace Definition

variable {d : Definition}

theorem IsLine.sources (h : d.IsLine) : (d.edges.map (·.source)).Nodup := by
  refine @nodup_of_count _ (d.nodes.map (·.id)) ?_ ?_
  · intro a ha
    obtain ⟨e, he, rfl⟩ := List.mem_map.1 ha
    exact (h.joined e he).1
  · intro a ha
    obtain ⟨n, hn, rfl⟩ := List.mem_map.1 ha
    rw [← exits_eq_count]
    exact h.left n hn

theorem IsLine.sifted (h : d.IsLine) : ∃ t, d.Sifted t := by
  obtain ⟨t, hsole⟩ : ∃ t, d.nodes.filter (fun n => startingTypes.contains n.type) = [t] := by
    rw [← List.length_eq_one_iff, ← List.countP_eq_length_filter]
    simpa using h.sole
  refine ⟨t, h.named, h.distinct, hsole, h.joined, h.sources, fun n hn => ?_⟩
  rw [h.entered n hn, if_congr (starting_iff h.distinct hsole hn) rfl rfl]

/-- **What the checks before the walk ask**, all together. -/
theorem sifted_iff {t : Node} : d.Sifted t ↔ checkIds [] d.nodes = .ok () ∧
    soleTrigger d.nodes = .ok t ∧ checkEdges (d.nodes.map (·.id)) [] d.edges = .ok () ∧
      checkEntries t.id d.edges d.nodes = .ok () := by
  have hempty : (∀ n ∈ d.nodes, Text.isBlankText n.id = false) → "" ∉ d.nodes.map (·.id) := by
    intro hnamed hmem
    obtain ⟨n, hn, hid⟩ := List.mem_map.1 hmem
    have hblank := hnamed n hn
    rw [hid] at hblank
    exact absurd hblank (by decide)
  rw [checkIds_eq_ok, soleTrigger_eq_ok, checkEntries_eq_ok]
  constructor
  · intro h
    exact ⟨⟨h.named, h.distinct, fun _ _ => List.not_mem_nil⟩, h.sole,
      (checkEdges_eq_ok (hempty h.named)).2 ⟨h.joined, h.sources, fun _ _ => List.not_mem_nil⟩,
      h.entered⟩
  · rintro ⟨⟨hnamed, hdistinct, -⟩, hsole, hedges, hentered⟩
    obtain ⟨hjoined, hsources, -⟩ := (checkEdges_eq_ok (hempty hnamed)).1 hedges
    exact ⟨hnamed, hdistinct, hsole, hjoined, hsources, hentered⟩

namespace Sifted

variable {t : Node}

theorem mem (h : d.Sifted t) : t ∈ d.nodes := by
  refine List.mem_of_mem_filter (p := fun n => startingTypes.contains n.type) ?_
  rw [h.sole]
  exact List.mem_singleton_self t

theorem starting_iff (h : d.Sifted t) {n : Node} (hn : n ∈ d.nodes) :
    n.type ∈ startingTypes ↔ n.id = t.id :=
  Workflow.starting_iff h.distinct h.sole hn

theorem targets (h : d.Sifted t) : (d.edges.map (·.target)).Nodup := by
  refine @nodup_of_count _ (d.nodes.map (·.id)) ?_ ?_
  · intro a ha
    obtain ⟨e, he, rfl⟩ := List.mem_map.1 ha
    exact (h.joined e he).2
  · intro a ha
    obtain ⟨n, hn, rfl⟩ := List.mem_map.1 ha
    rw [← entries_eq_count, h.entered n hn]
    split <;> omega

/-- The walk from the trigger comes to an end. -/
theorem exists_walk (h : d.Sifted t) :
    ∃ met left, walk d.edges d.nodes.length d.nodes t.id = .ok (met, left) := by
  refine Workflow.exists_walk h.targets (Nat.le_refl _) h.distinct (List.mem_map_of_mem h.mem) ?_
  rintro a b ⟨e, he, -, rfl⟩ -
  refine ⟨(h.joined e he).2, fun heq => ?_⟩
  have hzero := h.entered t h.mem
  rw [if_pos rfl, entries_eq_count, List.count_eq_zero] at hzero
  exact hzero (heq ▸ List.mem_map_of_mem he)

/-- What a walk from the trigger leaves cannot be reached from there. -/
theorem not_reached (h : d.Sifted t) {met left : List Node}
    (hw : walk d.edges d.nodes.length d.nodes t.id = .ok (met, left)) {n : Node} (hn : n ∈ left) :
    ¬ Relation.ReflTransGen (Leads d.edges) t.id n.id := by
  intro hreach
  have hnodup := ((walk_perm hw).map (·.id)).nodup_iff.2 h.distinct
  rw [List.map_append, List.nodup_append] at hnodup
  exact hnodup.2.2 _ (mem_of_walk h.sources hw hreach) _ (List.mem_map_of_mem hn) rfl

end Sifted

/-- A definition is put into a line if the checks pass and the walk from its trigger leaves nothing
over; the line is what the walk met. -/
theorem line_eq_ok {line : List Node} : d.line = .ok line ↔
    ∃ t, d.Sifted t ∧ walk d.edges d.nodes.length d.nodes t.id = .ok (line, []) := by
  constructor
  · intro h
    obtain ⟨_, hids, h⟩ := bind_eq_ok.1 h
    obtain ⟨t, hsole, h⟩ := bind_eq_ok.1 h
    obtain ⟨_, hedges, h⟩ := bind_eq_ok.1 h
    obtain ⟨_, hentries, h⟩ := bind_eq_ok.1 h
    obtain ⟨⟨met, left⟩, hwalk, h⟩ := bind_eq_ok.1 h
    refine ⟨t, sifted_iff.2 ⟨hids, hsole, hedges, hentries⟩, ?_⟩
    cases left with
    | nil => rw [hwalk, Except.ok.inj h]
    | cons n rest => cases h
  · rintro ⟨t, hsifted, hwalk⟩
    obtain ⟨hids, hsole, hedges, hentries⟩ := sifted_iff.1 hsifted
    exact bind_eq_ok.2 ⟨(), hids, bind_eq_ok.2 ⟨t, hsole, bind_eq_ok.2 ⟨(), hedges,
      bind_eq_ok.2 ⟨(), hentries, bind_eq_ok.2 ⟨_, hwalk, rfl⟩⟩⟩⟩⟩

/-- A graph that is one line can be put into it. -/
theorem IsLine.line (h : d.IsLine) : ∃ line, d.line = .ok line := by
  obtain ⟨t, hsifted⟩ := h.sifted
  obtain ⟨met, left, hwalk⟩ := hsifted.exists_walk
  have hnone : left = [] := List.eq_nil_iff_forall_not_mem.2 fun n hn => by
    refine hsifted.not_reached hwalk hn (h.reached t hsifted.mem ?_ n ?_)
    · exact (hsifted.starting_iff hsifted.mem).2 rfl
    · exact (walk_perm hwalk).subset (List.mem_append_right _ hn)
  rw [hnone] at hwalk
  exact ⟨met, line_eq_ok.2 ⟨t, hsifted, hwalk⟩⟩

/-- What is put into a line was one, and the line has its nodes and follows its edges. -/
theorem line_sound {line : List Node} (h : d.line = .ok line) : d.IsLine ∧ d.LinesUp line := by
  obtain ⟨t, hsifted, hwalk⟩ := line_eq_ok.1 h
  have hperm := walk_perm hwalk
  rw [List.append_nil] at hperm
  have hmem : ∀ a, a ∈ line.map (·.id) ↔ a ∈ d.nodes.map (·.id) := fun a => (hperm.map _).mem_iff
  obtain ⟨⟨ids, hhead⟩, hpairs⟩ := (walked_of_walk hwalk).pairs
  have hleads : ∀ a b, (a, b) ∈ pairs (line.map (·.id)) ↔ Leads d.edges a b := fun a b => by
    rw [hpairs, next?_eq_some hsifted.sources, hmem]
    exact and_iff_right_of_imp fun ⟨e, he, hs, _⟩ => hs ▸ (hsifted.joined e he).1
  refine ⟨⟨hsifted.named, hsifted.distinct, ?_, hsifted.joined, ?_, ?_, ?_⟩, hperm, ?_, ?_⟩
  · have hone := congrArg List.length hsifted.sole
    rw [← List.countP_eq_length_filter] at hone
    simpa using hone
  · intro n _
    rw [exits_eq_count]
    exact List.nodup_iff_count_le_one.1 hsifted.sources n.id
  · intro n hn
    rw [hsifted.entered n hn, if_congr (hsifted.starting_iff hn) rfl rfl]
  · intro u hu hutype n hn
    rw [(hsifted.starting_iff hu).1 hutype]
    refine @reaches_of_pairs _ ids _ (fun x y hxy => (hleads x y).1 (hhead ▸ hxy)) n.id ?_
    rw [← hhead, hmem]
    exact List.mem_map_of_mem hn
  · cases line with
    | nil => cases hhead
    | cons n line =>
      have hn := hperm.subset List.mem_cons_self
      exact ⟨n, rfl, (hsifted.starting_iff hn).2 (List.cons.inj hhead).1⟩
  · refine (List.perm_ext_iff_of_nodup (nodup_pairs ?_) ?_).2 ?_
    · exact (hperm.map _).nodup_iff.2 hsifted.distinct
    · refine List.Nodup.of_map Prod.fst ?_
      rw [List.map_map]
      exact hsifted.sources
    · rintro ⟨a, b⟩
      rw [hleads, mem_map_ends]

/-- What has the data that its types ask for gives a chain, if it is a line. -/
theorem IsRunnable.linearize (h : d.IsRunnable) : ∃ chain, d.linearize = .ok chain := by
  obtain ⟨line, hline⟩ := h.toIsLine.line
  obtain ⟨-, hup⟩ := line_sound hline
  obtain ⟨made, hmade⟩ : ∃ made, List.Forall₂ (fun n m => toChainNode n = .ok m) line made :=
    exists_forall₂ fun n hn => by
      obtain ⟨config, hconfig⟩ := h.complete n (hup.perm.subset hn)
      exact ⟨⟨n.id, n.type, config⟩, toChainNode_eq_ok.2 ⟨rfl, rfl, hconfig⟩⟩
  obtain ⟨trigger, hhead, -⟩ := hup.starts
  cases hmade with
  | nil => cases hhead
  | @cons n m line made hfirst hrest =>
    exact ⟨⟨m, m :: made⟩, linearize_eq_ok.2 ⟨n :: line, hline, .cons hfirst hrest, rfl⟩⟩

/-- A chain lays out the definition it is of. -/
theorem isLaid_of_linearize {chain : Chain} (h : d.linearize = .ok chain) : d.IsLaid chain := by
  obtain ⟨first, nodes⟩ := chain
  obtain ⟨line, hline, hmade, hhead⟩ := linearize_eq_ok.1 h
  obtain ⟨-, hup⟩ := line_sound hline
  have hids := toChainNode_ids hmade
  refine ⟨⟨line, hup.perm, hmade.imp fun _ _ => toChainNode_eq_ok.1⟩, ⟨hhead, ?_⟩, hids ▸ hup.edges⟩
  obtain ⟨trigger, hfirst, htype⟩ := hup.starts
  cases hmade with
  | nil => cases hfirst
  | cons hmake _ =>
    have hsame := (toChainNode_eq_ok.1 hmake).2.1
    rw [Option.some.inj hhead, Option.some.inj hfirst] at hsame
    rw [hsame]
    exact htype

/-- **The definitions that have a chain are those that are one line whose nodes have the data they
need**, and the chain is the definition laid out. -/
theorem linearize_iff_isRunnable (d : Definition) :
    ((∃ chain, d.linearize = .ok chain) ↔ d.IsRunnable) ∧
      ∀ chain, d.linearize = .ok chain → d.IsLaid chain := by
  refine ⟨⟨?_, IsRunnable.linearize⟩, fun chain => isLaid_of_linearize⟩
  rintro ⟨chain, h⟩
  obtain ⟨line, hline, hmade, -⟩ := linearize_eq_ok.1 h
  obtain ⟨hisline, hup⟩ := line_sound hline
  refine ⟨hisline, fun n hn => ?_⟩
  obtain ⟨m, -, hm⟩ := exists_of_mem_left hmade (hup.perm.mem_iff.2 hn)
  exact ⟨m.config, (toChainNode_eq_ok.1 hm).2.2⟩

namespace Sample

/-- A trigger and a day's wait, listed the other way round. -/
def pause : Definition :=
  ⟨[⟨"rest", "wait", .origin, [("amount", .int 1), ("unit", .str "days")]⟩,
    ⟨"start", "manual-trigger", .origin, []⟩], [⟨"", "start", "rest"⟩], ⟨none⟩⟩

/-- Its chain. -/
def pauseChain : Chain :=
  ⟨⟨"start", "manual-trigger", .trigger⟩,
    [⟨"start", "manual-trigger", .trigger⟩, ⟨"rest", "wait", .wait 1 .days⟩]⟩

theorem linearize_pause : pause.linearize = .ok pauseChain := by decide +kernel

end Sample

theorem linearize_iff_isRunnable_sample :
    Sample.pause.IsRunnable ∧ Sample.pause.IsLaid Sample.pauseChain :=
  ⟨(linearize_iff_isRunnable Sample.pause).1.1 ⟨_, Sample.linearize_pause⟩,
    (linearize_iff_isRunnable Sample.pause).2 _ Sample.linearize_pause⟩

/-- The degrees alone are not enough: two waits that lead to each other are never reached. -/
example : (⟨[⟨"start", "manual-trigger", .origin, []⟩,
    ⟨"a", "wait", .origin, []⟩, ⟨"b", "wait", .origin, []⟩],
    [⟨"", "a", "b"⟩, ⟨"", "b", "a"⟩], ⟨none⟩⟩ : Definition).linearize =
      .error (.unreachable "a") := by decide +kernel

end Definition

end Workflow
end Cadence
