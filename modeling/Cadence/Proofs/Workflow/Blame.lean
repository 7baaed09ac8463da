/-
# Flaws are real

A definition that has no chain is told what keeps it from having one, and at which node. What it is
told is true of the definition as a whole, although the checks go over nodes and edges one by one
and stop at the first thing they find: `Definition.Suffers` says for each message what it means, by
counting ids, triggers and edges and by what can be reached, and `suffers_of_linearize` that it is so.

There is no message about a cycle among them. The walk starts behind the checks of the edges, so it
comes to an end (`exists_walk`), and the nodes that it leaves are those that cannot be reached.

Key definitions: `Definition.Suffers`.
Key theorems: `checkIds_eq_error`, `checkEdges_eq_error`, `checkEntries_eq_error`,
`Definition.suffers_of_line`, `Definition.suffers_of_linearize`.
-/
import Cadence.Proofs.Workflow.Line

namespace Cadence
namespace Workflow

/-- What a message about a definition says, and about which node. -/
inductive Definition.Suffers (d : Definition) : String → Option String → Prop
  | blankId {n : Node} : n ∈ d.nodes → Text.isBlankText n.id = true →
      d.Suffers "Every node must have a valid 'id'." none
  | repeatedId {id : String} : 1 < (d.nodes.map (·.id)).count id →
      d.Suffers "Node ids must be unique." (some id)
  | triggerCount : d.nodes.countP (·.type ∈ startingTypes) ≠ 1 →
      d.Suffers "Workflow must have exactly 1 trigger (manual-trigger or voicemail-trigger)." none
  | looseEdge {e : Edge} : e ∈ d.edges → e.source = "" ∨ e.target = "" →
      d.Suffers "Every edge must have a 'source' and a 'target'." none
  | unknownSource {e : Edge} : e ∈ d.edges → e.source ∉ d.nodes.map (·.id) →
      d.Suffers "Edge source node does not exist." (some e.source)
  | unknownTarget {e : Edge} : e ∈ d.edges → e.target ∉ d.nodes.map (·.id) →
      d.Suffers "Edge target node does not exist." (some e.target)
  | manyExits {n : Node} : n ∈ d.nodes → 1 < exits d.edges n.id →
      d.Suffers "A node may have at most 1 outgoing edge." (some n.id)
  | triggerEntered {t : Node} : d.nodes.filter (fun n => startingTypes.contains n.type) = [t] →
      entries d.edges t.id ≠ 0 →
      d.Suffers "The trigger may not have incoming edges." (some t.id)
  | entryCount {t n : Node} : d.nodes.filter (fun n => startingTypes.contains n.type) = [t] →
      n ∈ d.nodes → n.id ≠ t.id → entries d.edges n.id ≠ 1 →
      d.Suffers "Every non-trigger node must have exactly 1 incoming edge." (some n.id)
  | unreachable {t n : Node} : d.nodes.filter (fun n => startingTypes.contains n.type) = [t] →
      n ∈ d.nodes → ¬ Relation.ReflTransGen (Leads d.edges) t.id n.id →
      d.Suffers "Workflow is not linear or contains unreachable nodes." (some n.id)
  | data {before after : List Node} {n : Node} {message : String} :
      d.LinesUp (before ++ n :: after) → (∀ m ∈ before, ∃ config, Configured m config) →
      Lacks n message → d.Suffers message (some n.id)

/-! ### The checks one by one -/

/-- The ids are at fault where one is blank, or is that of a node before or of one already seen. -/
theorem checkIds_eq_error {f : Flaw} : ∀ {nodes : List Node} {seen : List String},
    checkIds seen nodes = .error f → ∃ n ∈ nodes, f = .blankId ∧ Text.isBlankText n.id = true ∨
      f = .repeatedId n.id ∧ (n.id ∈ seen ∨ 1 < (nodes.map (·.id)).count n.id)
  | [], _, h => by
    unfold checkIds at h
    cases h
  | n :: rest, seen, h => by
    unfold checkIds at h
    split at h
    · rename_i hblank
      exact ⟨n, List.mem_cons_self, Or.inl ⟨(Except.error.inj h).symm, hblank⟩⟩
    · split at h
      · rename_i hseen
        exact ⟨n, List.mem_cons_self, Or.inr ⟨(Except.error.inj h).symm,
          Or.inl (List.contains_iff_mem.1 hseen)⟩⟩
      · obtain ⟨m, hm, hcase⟩ := checkIds_eq_error h
        refine ⟨m, List.mem_cons_of_mem _ hm, hcase.imp id ?_⟩
        rintro ⟨hf, hrepeated⟩
        refine ⟨hf, ?_⟩
        rw [List.map_cons, List.count_cons]
        rcases hrepeated with hseen | hcount
        · rcases List.mem_cons.1 hseen with heq | hseen
          · refine Or.inr ?_
            have hone := List.count_pos_iff.2 (List.mem_map_of_mem (f := (·.id)) hm)
            rw [heq] at hone ⊢
            simp only [beq_self_eq_true, if_true]
            omega
          · exact Or.inl hseen
        · exact Or.inr (by omega)

theorem soleTrigger_eq_error {nodes : List Node} {f : Flaw} (h : soleTrigger nodes = .error f) :
    f = .triggerCount ∧ nodes.countP (·.type ∈ startingTypes) ≠ 1 := by
  unfold soleTrigger at h
  split at h
  · cases h
  · rename_i hnot
    refine ⟨(Except.error.inj h).symm, fun hone => ?_⟩
    obtain ⟨t, ht⟩ := List.length_eq_one_iff.1 (List.countP_eq_length_filter ▸ hone)
    exact hnot t (by simpa using ht)

/-- The edges are at fault where one has an end that is missing or is no node, or leaves a node that
one before it leaves, or one left before. -/
theorem checkEdges_eq_error {ids : List String} {f : Flaw} : ∀ {edges : List Edge}
    {left : List String}, checkEdges ids left edges = .error f → ∃ e ∈ edges,
      f = .looseEdge ∧ (e.source = "" ∨ e.target = "") ∨
      f = .unknownSource e.source ∧ e.source ∉ ids ∨ f = .unknownTarget e.target ∧ e.target ∉ ids ∨
      f = .manyExits e.source ∧ e.source ∈ ids ∧ (e.source ∈ left ∨ 1 < exits edges e.source)
  | [], _, h => by
    unfold checkEdges at h
    cases h
  | e :: rest, left, h => by
    unfold checkEdges at h
    split at h
    · rename_i hloose
      exact ⟨e, List.mem_cons_self, Or.inl ⟨(Except.error.inj h).symm, by simpa using hloose⟩⟩
    · split at h
      · rename_i hsource
        exact ⟨e, List.mem_cons_self, Or.inr (Or.inl ⟨(Except.error.inj h).symm,
          by simpa using hsource⟩)⟩
      · rename_i hsource
        split at h
        · rename_i htarget
          exact ⟨e, List.mem_cons_self, Or.inr (Or.inr (Or.inl ⟨(Except.error.inj h).symm,
            by simpa using htarget⟩))⟩
        · split at h
          · rename_i hleft
            exact ⟨e, List.mem_cons_self, Or.inr (Or.inr (Or.inr ⟨(Except.error.inj h).symm,
              by simpa using hsource, Or.inl (List.contains_iff_mem.1 hleft)⟩))⟩
          · obtain ⟨e', he', hcase⟩ := checkEdges_eq_error h
            refine ⟨e', List.mem_cons_of_mem _ he', hcase.imp id (Or.imp id (Or.imp id ?_))⟩
            rintro ⟨hf, hin, hmany⟩
            refine ⟨hf, hin, ?_⟩
            rw [exits_eq_count, List.map_cons, List.count_cons, ← exits_eq_count]
            rcases hmany with hleft | hcount
            · rcases List.mem_cons.1 hleft with heq | hleft
              · refine Or.inr ?_
                have hone := List.count_pos_iff.2 (List.mem_map_of_mem (f := (·.source)) he')
                rw [exits_eq_count]
                rw [heq] at hone ⊢
                simp only [beq_self_eq_true, if_true]
                omega
              · exact Or.inl hleft
            · exact Or.inr (by omega)

theorem checkEntries_eq_error {trigger : String} {edges : List Edge} {f : Flaw} :
    ∀ {nodes : List Node}, checkEntries trigger edges nodes = .error f → ∃ n ∈ nodes,
      f = .triggerEntered n.id ∧ n.id = trigger ∧ entries edges n.id ≠ 0 ∨
      f = .entryCount n.id ∧ n.id ≠ trigger ∧ entries edges n.id ≠ 1
  | [], h => by
    unfold checkEntries at h
    cases h
  | n :: rest, h => by
    unfold checkEntries at h
    split at h
    · rename_i htrigger
      split at h
      · obtain ⟨m, hm, hcase⟩ := checkEntries_eq_error h
        exact ⟨m, List.mem_cons_of_mem _ hm, hcase⟩
      · rename_i hcount
        exact ⟨n, List.mem_cons_self, Or.inl ⟨(Except.error.inj h).symm, htrigger, hcount⟩⟩
    · rename_i htrigger
      split at h
      · obtain ⟨m, hm, hcase⟩ := checkEntries_eq_error h
        exact ⟨m, List.mem_cons_of_mem _ hm, hcase⟩
      · rename_i hcount
        exact ⟨n, List.mem_cons_self, Or.inr ⟨(Except.error.inj h).symm, htrigger, hcount⟩⟩

/-! ### All checks -/

namespace Definition

variable {d : Definition} {f : Flaw}

/-- **A graph that is not put into a line** suffers from what it is told. -/
theorem suffers_of_line (h : d.line = .error f) : d.Suffers f.message f.node? := by
  rcases bind_eq_error.1 h with hids | ⟨_, hids, h⟩
  · obtain ⟨n, hn, ⟨rfl, hblank⟩ | ⟨rfl, hrepeated⟩⟩ := checkIds_eq_error hids
    · exact .blankId hn hblank
    · exact .repeatedId (hrepeated.resolve_left List.not_mem_nil)
  rcases bind_eq_error.1 h with hsole | ⟨t, hsole, h⟩
  · obtain ⟨rfl, hcount⟩ := soleTrigger_eq_error hsole
    exact .triggerCount hcount
  have ht := soleTrigger_eq_ok.1 hsole
  rcases bind_eq_error.1 h with hedges | ⟨_, hedges, h⟩
  · obtain ⟨e, he, ⟨rfl, hloose⟩ | ⟨rfl, hsource⟩ | ⟨rfl, htarget⟩ | ⟨rfl, hin, hmany⟩⟩ :=
      checkEdges_eq_error hedges
    · exact .looseEdge he hloose
    · exact .unknownSource he hsource
    · exact .unknownTarget he htarget
    · obtain ⟨n, hn, hid⟩ := List.mem_map.1 hin
      have hexits := hmany.resolve_left List.not_mem_nil
      rw [← hid] at hexits
      have hsuffers := Suffers.manyExits hn hexits
      rwa [hid] at hsuffers
  rcases bind_eq_error.1 h with hentries | ⟨_, hentries, h⟩
  · obtain ⟨n, hn, ⟨rfl, hid, hcount⟩ | ⟨rfl, hid, hcount⟩⟩ := checkEntries_eq_error hentries
    · rw [hid] at hcount ⊢
      exact .triggerEntered ht hcount
    · exact .entryCount ht hn hid hcount
  have hsifted : d.Sifted t := sifted_iff.2 ⟨hids, hsole, hedges, hentries⟩
  obtain ⟨met, left, hwalk⟩ := hsifted.exists_walk
  rw [hwalk] at h
  cases left with
  | nil => cases h
  | cons n rest =>
    cases h
    have hn := (walk_perm hwalk).subset (List.mem_append_right _ List.mem_cons_self)
    exact .unreachable ht hn (hsifted.not_reached hwalk List.mem_cons_self)

/-- What is in line fails at the first node that lacks something. -/
theorem linearize_eq_error (h : d.linearize = .error f) : d.line = .error f ∨
    ∃ before n after, d.line = .ok (before ++ n :: after) ∧
      (∀ m ∈ before, ∃ config, Configured m config) ∧ configure n = .error f := by
  rcases bind_eq_error.1 h with hline | ⟨line, hline, h⟩
  · exact Or.inl hline
  rcases bind_eq_error.1 h with hmade | ⟨made, hmade, h⟩
  · obtain ⟨before, n, after, rfl, hbefore, hn⟩ := mapM_eq_error.1 hmade
    refine Or.inr ⟨before, n, after, hline, fun m hm => ?_, ?_⟩
    · obtain ⟨made, hmade⟩ := hbefore m hm
      exact ⟨made.config, (toChainNode_eq_ok.1 hmade).2.2⟩
    · unfold toChainNode at hn
      cases hc : configure n with
      | error f' => rw [hc] at hn; exact congrArg _ (Except.error.inj hn)
      | ok config => rw [hc] at hn; cases hn
  · -- a line is not empty: it starts with the trigger
    obtain ⟨-, hup⟩ := line_sound hline
    obtain ⟨trigger, hhead, -⟩ := hup.starts
    cases mapM_eq_ok.1 hmade with
    | nil => cases hhead
    | cons => cases h

/-- **What a definition is told that has no chain is true of it**, and it is told of no node only
where an id is blank, an edge has an end that is missing, or there is not exactly one trigger. -/
theorem suffers_of_linearize (h : d.linearize = .error f) : d.Suffers f.message f.node? ∧
    (f.node? = none → (∃ n ∈ d.nodes, Text.isBlankText n.id = true) ∨
      (∃ e ∈ d.edges, e.source = "" ∨ e.target = "") ∨
      d.nodes.countP (·.type ∈ startingTypes) ≠ 1) := by
  have hsuffers : d.Suffers f.message f.node? := by
    rcases linearize_eq_error h with hline | ⟨before, n, after, hline, hbefore, hn⟩
    · exact suffers_of_line hline
    · obtain ⟨hid, hlacks⟩ := lacks_of_configure hn
      rw [hid]
      exact .data (line_sound hline).2 hbefore hlacks
  refine ⟨hsuffers, fun hnone => ?_⟩
  rw [hnone] at hsuffers
  generalize f.message = message at hsuffers
  cases hsuffers with
  | blankId hn hblank => exact Or.inl ⟨_, hn, hblank⟩
  | looseEdge he hloose => exact Or.inr (Or.inl ⟨_, he, hloose⟩)
  | triggerCount hcount => exact Or.inr (Or.inr hcount)

namespace Sample

/-- A trigger, and two waits that only lead to each other. -/
def island : Definition :=
  ⟨[⟨"start", "manual-trigger", .origin, []⟩, ⟨"a", "wait", .origin, []⟩,
    ⟨"b", "wait", .origin, []⟩], [⟨"", "a", "b"⟩, ⟨"", "b", "a"⟩], ⟨none⟩⟩

end Sample

/-- Every degree is as it should be, so the flaw is that a node cannot be reached. -/
theorem suffers_of_linearize_island :
    Sample.island.linearize = .error (.unreachable "a") ∧
      Sample.island.Suffers "Workflow is not linear or contains unreachable nodes." (some "a") := by
  have hflaw : Sample.island.linearize = .error (.unreachable "a") := by decide +kernel
  exact ⟨hflaw, (suffers_of_linearize hflaw).1⟩

end Definition
end Workflow
end Cadence
