/-
# The walk meets no cycle

`walk` counts its steps and looks for each node among those that it has not taken yet; behind the
checks of the edges it needs neither. `after?` follows the edges from a node and knows of no bound
and of nothing taken. From the trigger it comes to one node after the other and never to one again,
and it has no next one after as many steps as there are nodes at the latest: these are the nodes
that `walk` meets (`Walked.after?`), and so no definition is told that it has a cycle
(`Suffers.ne_cycle`).

It may have one all the same. Every node of a cycle is entered from the cycle, no node is entered
twice and the trigger not once, so that nothing leads from the trigger into a cycle
(`Sifted.not_reached_of_cycle`). What the walk leaves over stands as it did (`Walked.rest_eq`), and
the first of it is the node that the definition is told cannot be reached.

Key definitions: `after?`.
Key theorems: `Walked.after?`, `Walked.rest_eq`, `Definition.Sifted.not_reached_of_cycle`,
`Definition.walk_without_cycle`.
-/
import Cadence.Proofs.Workflow.Blame

namespace Cadence
namespace Workflow

section
variable {edges : List Edge} {left met rest : List Node} {id : String}

/-- The node a number of edges after another, if there is an edge every time. -/
def after? (edges : List Edge) (id : String) : Nat → Option String
  | 0 => some id
  | k + 1 => (after? edges id k).bind (next? edges)

/-- The first edge of the way may as well be taken first. -/
theorem after?_succ : ∀ k : Nat,
    after? edges id (k + 1) = (next? edges id).bind fun next => after? edges next k
  | 0 => (Option.bind_fun_some (next? edges id)).symm
  | k + 1 => by
    show (after? edges id (k + 1)).bind (next? edges) = _
    rw [after?_succ k, Option.bind_assoc]
    rfl

/-- Where a number of edges leads can be reached. -/
theorem reaches_of_after? : ∀ {k : Nat} {b : String}, after? edges id k = some b →
    Relation.ReflTransGen (Leads edges) id b
  | 0, b, h => by
    cases h
    exact .refl
  | k + 1, b, h => by
    obtain ⟨a, ha, hb⟩ := Option.bind_eq_some_iff.1 h
    exact .tail (reaches_of_after? ha) (leads_of_next? hb)

/-- **A walk meets what the edges lead to**, node by node, and where it ends they lead nowhere. -/
theorem Walked.after? (h : Walked edges left id met rest) :
    ∀ k : Nat, after? edges id k = (met.map (·.id))[k]? := by
  induction h with
  | @ends left id n hn hnone =>
    have hnid := id_of_find? hn
    rintro (_ | k)
    · rw [← hnid]
      rfl
    · rw [after?_succ, hnone]
      rfl
  | @leads left met rest id next n hn hnext _ ih =>
    have hnid := id_of_find? hn
    rintro (_ | k)
    · rw [← hnid]
      rfl
    · rw [after?_succ, hnext, Option.bind_some, ih k]
      rfl

theorem eraseP_eq_filter : ∀ {l : List Node}, (l.map (·.id)).Nodup →
    l.eraseP (·.id = id) = l.filter fun n => n.id ≠ id
  | [], _ => rfl
  | n :: l, h => by
    obtain ⟨hn, h⟩ := List.nodup_cons.1 h
    by_cases hid : n.id = id
    · have hothers : ∀ m ∈ l, m.id ≠ id := fun m hm heq =>
        hn (List.mem_map.2 ⟨m, hm, heq.trans hid.symm⟩)
      rw [List.eraseP_cons_of_pos (by simp [hid]), List.filter_cons_of_neg (by simp [hid]),
        List.filter_eq_self.2 fun m hm => decide_eq_true (hothers m hm)]
    · rw [List.eraseP_cons_of_neg (by simp [hid]), List.filter_cons_of_pos (by simp [hid]),
        eraseP_eq_filter h]

/-- A walk leaves over the nodes that it did not meet, in their order. -/
theorem Walked.rest_eq (h : Walked edges left id met rest) :
    (left.map (·.id)).Nodup → rest = left.filter fun n => n.id ∉ met.map (·.id) := by
  induction h with
  | @ends left id n hn _ =>
    intro hnodup
    have hnid := id_of_find? hn
    simp only [eraseP_eq_filter hnodup, List.map_singleton, List.mem_singleton, hnid]
  | @leads left met rest id next n hn _ _ ih =>
    intro hnodup
    have hnid := id_of_find? hn
    rw [eraseP_eq_filter hnodup] at ih
    rw [ih (hnodup.sublist ((List.filter_sublist).map _)), List.filter_filter]
    refine List.filter_congr fun m _ => ?_
    rw [List.map_cons, hnid]
    simp only [List.mem_cons, not_or, Bool.decide_and, ne_eq]
    exact Bool.and_comm _ _

end

namespace Definition

variable {d : Definition} {t : Node}

/-- Nothing that is said about a definition is that it has a cycle. -/
theorem Suffers.ne_cycle {message : String} {node : Option String} (h : d.Suffers message node)
    (id : String) : message ≠ (Flaw.cycle id).message := by
  show message ≠ "Cycle detected in workflow."
  induction h with
  | data _ _ hlacks =>
    induction hlacks with
    | text hlisted _ =>
      simp only [requiredTexts, List.mem_cons, List.not_mem_nil, Prod.mk.injEq, or_false] at hlisted
      rcases hlisted with ⟨-, rfl, rfl⟩ | ⟨-, rfl, rfl⟩ | ⟨-, rfl, rfl⟩ | ⟨-, rfl, rfl⟩ <;> decide
    | type =>
      intro heq
      have hfirst := congrArg (·.toList.head?) heq
      simp at hfirst
    | _ => decide
  | _ => decide

/-- Nothing leads from the trigger into a cycle: the last edge from outside would be a second one
into a node of the cycle, or one into the trigger. -/
theorem Sifted.not_reached_of_cycle (h : d.Sifted t) {a : String}
    (hcycle : Relation.TransGen (Leads d.edges) a a) :
    ¬ Relation.ReflTransGen (Leads d.edges) t.id a := by
  intro hreach
  induction hreach with
  | refl =>
    obtain ⟨b, -, e, he, -, htarget⟩ := Relation.TransGen.tail'_iff.1 hcycle
    have hzero := h.entered t h.mem
    rw [if_pos rfl, entries_eq_count, List.count_eq_zero] at hzero
    exact hzero (htarget ▸ List.mem_map_of_mem he)
  | @tail b a _ hleads ih =>
    obtain ⟨c, hround, hlast⟩ := Relation.TransGen.tail'_iff.1 hcycle
    obtain rfl := hlast.back h.targets hleads
    exact ih (Relation.TransGen.head' hleads hround)

/-- A node that the walk leaves over is what a definition that passes the checks before is told
of. -/
theorem Sifted.unreachable (h : d.Sifted t) {met left : List Node} {n : Node}
    (hw : walk d.edges d.nodes.length d.nodes t.id = .ok (met, n :: left)) :
    d.linearize = .error (.unreachable n.id) := by
  obtain ⟨hids, hsole, hedges, hentries⟩ := sifted_iff.1 h
  have hline : d.line = .error (.unreachable n.id) := by
    simp only [line, hids, hsole, hedges, hentries, hw, bind, Except.bind]
    rfl
  simp only [linearize, hline, bind, Except.bind]

/-- **The walk comes to an end on its own.** In a definition that passes the checks of the ids, the
trigger, the edges and the entries, following the edges from the trigger meets as many nodes as
there are at the most, none twice, and then leads nowhere; any number of steps is enough for the
walk that is not below the number of these nodes. If there is a cycle, the definition is told of the
first node that the walk did not meet. No definition is told that it has one. -/
theorem walk_without_cycle (d : Definition) :
    (∀ id, d.linearize ≠ .error (.cycle id)) ∧
    ∀ t, checkIds [] d.nodes = .ok () → soleTrigger d.nodes = .ok t →
      checkEdges (d.nodes.map (·.id)) [] d.edges = .ok () →
      checkEntries t.id d.edges d.nodes = .ok () →
      ∃ met : List Node, met.length ≤ d.nodes.length ∧ (met.map (·.id)).Nodup ∧
        (∀ k, after? d.edges t.id k = (met.map (·.id))[k]?) ∧
        (∀ steps, met.length ≤ steps → walk d.edges steps d.nodes t.id =
          .ok (met, d.nodes.filter fun n => n.id ∉ met.map (·.id))) ∧
        ∀ a, Relation.TransGen (Leads d.edges) a a → ∃ n,
          d.nodes.find? (fun n => n.id ∉ met.map (·.id)) = some n ∧
            d.linearize = .error (.unreachable n.id) := by
  refine ⟨fun id h => ?_, fun t hids hsole hedges hentries => ?_⟩
  · exact (suffers_of_linearize h).1.ne_cycle id rfl
  have hsifted : d.Sifted t := sifted_iff.2 ⟨hids, hsole, hedges, hentries⟩
  obtain ⟨met, left, hwalk⟩ := hsifted.exists_walk
  have hwalked := walked_of_walk hwalk
  obtain rfl := hwalked.rest_eq hsifted.distinct
  have hlength := hwalked.perm.length_eq
  rw [List.length_append] at hlength
  refine ⟨met, by omega, ?_, hwalked.after?, fun steps => hwalked.walk, fun a hcycle => ?_⟩
  · have hnodup := (hwalked.perm.map (·.id)).nodup_iff.2 hsifted.distinct
    rw [List.map_append] at hnodup
    exact hnodup.of_append_left
  -- the node of the cycle is left over, so there is a first one that is
  have ha : a ∈ d.nodes.map (·.id) := by
    obtain ⟨b, -, e, he, -, rfl⟩ := Relation.TransGen.tail'_iff.1 hcycle
    exact (hsifted.joined e he).2
  obtain ⟨m, hm, rfl⟩ := List.mem_map.1 ha
  have hleft : m ∈ d.nodes.filter fun n => n.id ∉ met.map (·.id) := by
    refine List.mem_filter.2 ⟨hm, decide_eq_true fun hmet => ?_⟩
    obtain ⟨k, hk⟩ := List.mem_iff_getElem?.1 hmet
    rw [← hwalked.after?] at hk
    exact hsifted.not_reached_of_cycle hcycle (reaches_of_after? hk)
  rw [← List.head?_filter]
  cases hrest : d.nodes.filter fun n => n.id ∉ met.map (·.id) with
  | nil =>
    rw [hrest] at hleft
    cases hleft
  | cons n rest =>
    rw [hrest] at hwalk
    exact ⟨n, rfl, hsifted.unreachable hwalk⟩

/-- Two waits that lead to each other are a cycle, and what the definition is told is that the walk
did not come to one of them. -/
theorem walk_without_cycle_island : ∃ met : List Node, met.length ≤ 3 ∧
    (∀ k, after? Sample.island.edges "start" k = (met.map (·.id))[k]?) ∧
      ∃ n, Sample.island.nodes.find? (fun n => n.id ∉ met.map (·.id)) = some n ∧
        Sample.island.linearize = .error (.unreachable n.id) := by
  obtain ⟨met, hlength, -, hafter, -, hflaw⟩ := (walk_without_cycle Sample.island).2
    ⟨"start", "manual-trigger", .origin, []⟩ (by decide +kernel) (by decide +kernel)
    (by decide +kernel) (by decide +kernel)
  refine ⟨met, hlength, hafter, hflaw "a" ?_⟩
  exact .tail (.single ⟨⟨"", "a", "b"⟩, List.mem_cons_self, rfl, rfl⟩)
    ⟨⟨"", "b", "a"⟩, List.mem_cons_of_mem _ List.mem_cons_self, rfl, rfl⟩

end Definition
end Workflow
end Cadence
