/-
# The order of authoring does not matter

A definition lists its nodes and edges in some order, puts the nodes in places on a canvas and gives
names to the edges. None of this is part of what it says (`Definition.Rearranges`). The checks do go
over the lists in their order, and what they find first depends on it; but whether there is anything
to find does not, because a definition is one line by its ids, types and ends of edges
(`IsLine.rearranged`). And the line is the same: it starts at the trigger, and the edges say which
node comes after which (`eq_of_pairs`). So two definitions that are one line and differ only in the
order of authoring have the same chain, or the same node of it lacks something (`linearize_eq`).

Key definitions: `Node.content`, `Edge.ends`, `Definition.Rearranges`.
Key theorems: `eq_of_pairs`, `Definition.IsLine.rearranged`, `Definition.LinesUp.rearranged`,
`Definition.linearize_eq`, `Definition.linearize_rearranged`.
-/
import Cadence.Proofs.Workflow.Blame

namespace Cadence
namespace Workflow

/-- What a node says, wherever it is put. -/
def Node.content (n : Node) : String × String × Json.Fields := (n.id, n.type, n.data)

/-- What an edge says, whatever its name. -/
def Edge.ends (e : Edge) : String × String := (e.source, e.target)

/-- Two definitions say the same in another order: their nodes have the same ids, types and data, and
their edges the same ends, each as often. -/
structure Definition.Rearranges (d d' : Definition) : Prop where
  nodes : (d.nodes.map Node.content).Perm (d'.nodes.map Node.content)
  edges : (d.edges.map Edge.ends).Perm (d'.edges.map Edge.ends)

/-! ### Lists that are told by what follows what -/

/-- **A list without repetitions is told by its first member and by which member follows which.** -/
theorem eq_of_pairs {α : Type} : ∀ {l l' : List α}, l.Nodup → l'.Nodup → l.head? = l'.head? →
    (∀ p, p ∈ pairs l ↔ p ∈ pairs l') → l = l'
  | [], [], _, _, _, _ => rfl
  | [], _ :: _, _, _, hhead, _ => by cases hhead
  | _ :: _, [], _, _, hhead, _ => by cases hhead
  | [a], [a'], _, _, hhead, _ => by rw [Option.some.inj hhead]
  | [_], a' :: b' :: l', _, _, _, hp =>
    absurd ((hp (a', b')).2 List.mem_cons_self) List.not_mem_nil
  | a :: b :: l, [_], _, _, _, hp => absurd ((hp (a, b)).1 List.mem_cons_self) List.not_mem_nil
  | a :: b :: l, a' :: b' :: l', hl, hl', hhead, hp => by
    obtain rfl : a = a' := Option.some.inj hhead
    obtain ⟨ha, hl⟩ := List.nodup_cons.1 hl
    obtain ⟨ha', hl'⟩ := List.nodup_cons.1 hl'
    -- the first member is followed only by the second
    have hfirst : ∀ {c : α} {l : List α}, a ∉ l → (a, c) ∉ pairs l :=
      fun ha hmem => ha (List.of_mem_zip hmem).1
    obtain rfl : b = b' := by
      rcases List.mem_cons.1 ((hp (a, b)).1 List.mem_cons_self) with heq | hmem
      · exact (Prod.mk.inj heq).2
      · exact absurd hmem (hfirst ha')
    refine congrArg (a :: ·) (eq_of_pairs hl hl' rfl fun p => ?_)
    have hmem := hp p
    rw [pairs_cons_cons, pairs_cons_cons, List.mem_cons, List.mem_cons] at hmem
    constructor
    · intro h
      refine (hmem.1 (Or.inr h)).resolve_left ?_
      rintro rfl
      exact hfirst ha h
    · intro h
      refine (hmem.2 (Or.inr h)).resolve_left ?_
      rintro rfl
      exact hfirst ha' h

/-- Pairs with distinct keys are told by the order of the keys. -/
theorem eq_of_keys {α β : Type} {l l' : List (α × β)} (hnodup : (l'.map Prod.fst).Nodup)
    (hkeys : l.map Prod.fst = l'.map Prod.fst) (hmem : ∀ p ∈ l, p ∈ l') : l = l' := by
  have hlength : l.length = l'.length := by simpa using congrArg List.length hkeys
  refine List.ext_getElem hlength fun i hi hi' => ?_
  refine List.inj_on_of_nodup_map hnodup (hmem _ (List.getElem_mem hi)) (List.getElem_mem hi') ?_
  have hkey := List.getElem_of_eq hkeys (by rwa [List.length_map])
  rwa [List.getElem_map, List.getElem_map] at hkey

namespace Definition

variable {d d' : Definition}

/-! ### What is not changed -/

namespace Rearranges

theorem symm (h : d.Rearranges d') : d'.Rearranges d := ⟨h.nodes.symm, h.edges.symm⟩

/-- The nodes have the same ids, each as often. -/
theorem ids (h : d.Rearranges d') : (d.nodes.map (·.id)).Perm (d'.nodes.map (·.id)) := by
  have hids := h.nodes.map Prod.fst
  rwa [List.map_map, List.map_map] at hids

theorem sources (h : d.Rearranges d') :
    (d.edges.map (·.source)).Perm (d'.edges.map (·.source)) := by
  have hsources := h.edges.map Prod.fst
  rwa [List.map_map, List.map_map] at hsources

theorem targets (h : d.Rearranges d') :
    (d.edges.map (·.target)).Perm (d'.edges.map (·.target)) := by
  have htargets := h.edges.map Prod.snd
  rwa [List.map_map, List.map_map] at htargets

/-- For each node there is one that says the same. -/
theorem exists_node (h : d.Rearranges d') {n' : Node} (hn : n' ∈ d'.nodes) :
    ∃ n ∈ d.nodes, n.id = n'.id ∧ n.type = n'.type ∧ n.data = n'.data := by
  obtain ⟨n, hn, hsame⟩ := List.mem_map.1 (h.nodes.mem_iff.2 (List.mem_map_of_mem hn))
  obtain ⟨hid, hrest⟩ := Prod.mk.inj hsame
  obtain ⟨htype, hdata⟩ := Prod.mk.inj hrest
  exact ⟨n, hn, hid, htype, hdata⟩

theorem exits (h : d.Rearranges d') (id : String) :
    Workflow.exits d.edges id = Workflow.exits d'.edges id := by
  rw [exits_eq_count, exits_eq_count, h.sources.count_eq]

theorem entries (h : d.Rearranges d') (id : String) :
    Workflow.entries d.edges id = Workflow.entries d'.edges id := by
  rw [entries_eq_count, entries_eq_count, h.targets.count_eq]

theorem leads_iff (h : d.Rearranges d') {a b : String} :
    Leads d.edges a b ↔ Leads d'.edges a b := by
  rw [← mem_map_ends, ← mem_map_ends]
  exact h.edges.mem_iff

/-- There are as many nodes that start the workflow. -/
theorem starting (h : d.Rearranges d') :
    d.nodes.countP (·.type ∈ startingTypes) = d'.nodes.countP (·.type ∈ startingTypes) := by
  have hcount := h.nodes.countP_eq fun c => decide (c.2.1 ∈ startingTypes)
  rwa [List.countP_map, List.countP_map] at hcount

end Rearranges

/-- **What is one line is one in any order.** -/
theorem IsLine.rearranged (hline : d.IsLine) (h : d.Rearranges d') : d'.IsLine := by
  refine ⟨?_, h.ids.nodup_iff.1 hline.distinct, h.starting ▸ hline.sole, ?_, ?_, ?_, ?_⟩
  · intro n' hn'
    obtain ⟨n, hn, hid, -⟩ := h.exists_node hn'
    exact hid ▸ hline.named n hn
  · intro e' he'
    obtain ⟨e, he, hs, ht⟩ := h.leads_iff.2 ⟨e', he', rfl, rfl⟩
    obtain ⟨hsource, htarget⟩ := hline.joined e he
    exact ⟨hs ▸ h.ids.mem_iff.1 hsource, ht ▸ h.ids.mem_iff.1 htarget⟩
  · intro n' hn'
    obtain ⟨n, hn, hid, -⟩ := h.exists_node hn'
    rw [← h.exits, ← hid]
    exact hline.left n hn
  · intro n' hn'
    obtain ⟨n, hn, hid, htype, -⟩ := h.exists_node hn'
    rw [← h.entries, ← hid, ← htype]
    exact hline.entered n hn
  · intro t' ht' hstarts n' hn'
    obtain ⟨t, ht, htid, httype, -⟩ := h.exists_node ht'
    obtain ⟨n, hn, hnid, -⟩ := h.exists_node hn'
    rw [← htid, ← hnid]
    exact (hline.reached t ht (httype ▸ hstarts) n hn).lift id fun _ _ => h.leads_iff.1

/-- **The line is the same in any order**, up to the places of its nodes. -/
theorem LinesUp.rearranged {line line' : List Node} (hup : d.LinesUp line) (hline : d.IsLine)
    (h : d.Rearranges d') (hup' : d'.LinesUp line') :
    line.map Node.content = line'.map Node.content := by
  have hnodup : (line.map (·.id)).Nodup := (hup.perm.map _).nodup_iff.2 hline.distinct
  have hnodup' : (line'.map (·.id)).Nodup :=
    (hup'.perm.map _).nodup_iff.2 (h.ids.nodup_iff.1 hline.distinct)
  have hhead : (line.map (·.id)).head? = (line'.map (·.id)).head? := by
    obtain ⟨t, ht, hstarts⟩ := hup.starts
    obtain ⟨t', ht', hstarts'⟩ := hup'.starts
    obtain ⟨u, hu, hid, htype, -⟩ := h.exists_node (hup'.perm.subset (List.mem_of_head? ht'))
    obtain ⟨trigger, hsifted⟩ := hline.sifted
    have hone : t.id = u.id :=
      ((hsifted.starting_iff (hup.perm.subset (List.mem_of_head? ht))).1 hstarts).trans
        ((hsifted.starting_iff hu).1 (htype ▸ hstarts')).symm
    rw [List.head?_map, List.head?_map, ht, ht', Option.map_some, Option.map_some, hone, hid]
  have hids : line.map (·.id) = line'.map (·.id) := eq_of_pairs hnodup hnodup' hhead fun p => by
    rw [hup.edges.mem_iff, hup'.edges.mem_iff]
    exact h.edges.mem_iff
  have hfst : ∀ l : List Node, (l.map Node.content).map Prod.fst = l.map (·.id) :=
    fun l => List.map_map
  refine eq_of_keys (by rwa [hfst]) (by rwa [hfst, hfst]) fun p hp => ?_
  rw [(hup.perm.map _).mem_iff] at hp
  rw [(hup'.perm.map _).mem_iff]
  exact h.nodes.mem_iff.1 hp

/-! ### The chain -/

/-- What becomes of the nodes in line does not depend on their places. -/
theorem mapM_of_content {line line' : List Node}
    (h : line.map Node.content = line'.map Node.content) :
    line.mapM toChainNode = line'.mapM toChainNode := by
  have hplace : ∀ l : List Node, l.mapM toChainNode = (l.map Node.content).mapM fun c =>
      toChainNode ⟨c.1, c.2.1, .origin, c.2.2⟩ := fun l => by
    rw [List.mapM_map]
    rfl
  rw [hplace, hplace, h]

/-- **Two definitions that are one line and say the same have the same chain, or the same flaw.** -/
theorem linearize_eq (hline : d.IsLine) (h : d.Rearranges d') : d.linearize = d'.linearize := by
  obtain ⟨line, hl⟩ := hline.line
  obtain ⟨line', hl'⟩ := (hline.rearranged h).line
  have hsame := (line_sound hl).2.rearranged hline h (line_sound hl').2
  unfold linearize
  rw [hl, hl']
  show (line.mapM toChainNode >>= _) = (line'.mapM toChainNode >>= _)
  rw [mapM_of_content hsame]

/-- **The order of authoring does not matter.** Definitions that say the same have the same chain, or
none of them has one; and if they are one line of which some node lacks something, they are all told
the same, which is about the first such node in line. -/
theorem linearize_rearranged (h : d.Rearranges d') :
    (∀ chain, d.linearize = .ok chain ↔ d'.linearize = .ok chain) ∧ (d.IsLine ↔ d'.IsLine) ∧
      (d.IsLine → (∃ n ∈ d.nodes, ¬ ∃ config, Configured n config) → ∃ f before n after,
        d.linearize = .error f ∧ d'.linearize = .error f ∧ d.LinesUp (before ++ n :: after) ∧
          (∀ m ∈ before, ∃ config, Configured m config) ∧ f.node? = some n.id ∧
            Lacks n f.message) := by
  have hlinear : ∀ {d d' : Definition} {chain : Chain}, d.Rearranges d' →
      d.linearize = .ok chain → d'.linearize = .ok chain := by
    intro d d' chain h hchain
    have hrunnable := (linearize_iff_isRunnable d).1.1 ⟨chain, hchain⟩
    rw [← linearize_eq hrunnable.toIsLine h, hchain]
  refine ⟨fun chain => ⟨hlinear h, hlinear h.symm⟩,
    ⟨fun hline => hline.rearranged h, fun hline => hline.rearranged h.symm⟩, ?_⟩
  rintro hline ⟨n, hn, hnone⟩
  have hsame := linearize_eq hline h
  cases hres : d.linearize with
  | ok chain =>
    have hrunnable := (linearize_iff_isRunnable d).1.1 ⟨chain, hres⟩
    exact absurd (hrunnable.complete n hn) hnone
  | error f =>
    obtain ⟨line, hl⟩ := hline.line
    rcases linearize_eq_error hres with hflaw | ⟨before, m, after, hl', hbefore, hm⟩
    · rw [hl] at hflaw
      cases hflaw
    · obtain ⟨hid, hlacks⟩ := lacks_of_configure hm
      exact ⟨f, before, m, after, rfl, hsame ▸ hres, (line_sound hl').2, hbefore, hid, hlacks⟩

namespace Sample

/-- A mail without a subject and a wait without an amount, in line behind a trigger. -/
def unfinished : Definition :=
  ⟨[⟨"start", "manual-trigger", .origin, []⟩, ⟨"mail", "send-email", .origin, [("body", .str "Hi")]⟩,
    ⟨"rest", "wait", .origin, [("unit", .str "days")]⟩],
    [⟨"e1", "start", "mail"⟩, ⟨"e2", "mail", "rest"⟩], ⟨none⟩⟩

/-- The same from the end to the start, elsewhere on the canvas. -/
def backwards : Definition :=
  ⟨[⟨"rest", "wait", ⟨.ofInt 3, .ofInt 4⟩, [("unit", .str "days")]⟩,
    ⟨"mail", "send-email", ⟨.ofInt 3, .ofInt 2⟩, [("body", .str "Hi")]⟩,
    ⟨"start", "manual-trigger", .origin, []⟩],
    [⟨"last", "mail", "rest"⟩, ⟨"first", "start", "mail"⟩], ⟨none⟩⟩

theorem unfinished_backwards : unfinished.Rearranges backwards :=
  ⟨by decide +kernel, by decide +kernel⟩

end Sample

/-- The mail comes first in line, so both are told that it has no subject. -/
theorem linearize_rearranged_unfinished :
    Sample.unfinished.Rearranges Sample.backwards ∧ (∃ f, Sample.unfinished.linearize = .error f ∧
      Sample.backwards.linearize = .error f ∧ f = .blankField "mail" "Email" "subject") := by
  have hflaw : Sample.unfinished.linearize = .error (.blankField "mail" "Email" "subject") := by
    decide +kernel
  have hline : Sample.unfinished.line.toOption.isSome = true := by decide +kernel
  have hisline : Sample.unfinished.IsLine := by
    cases hl : Sample.unfinished.line with
    | ok line => exact (line_sound hl).1
    | error f =>
      rw [hl] at hline
      cases hline
  have hlacking : ∃ n ∈ Sample.unfinished.nodes, ¬ ∃ config, Configured n config := by
    refine ⟨⟨"mail", "send-email", .origin, [("body", .str "Hi")]⟩, by decide, ?_⟩
    exact (lacks_of_configure (f := .blankField "mail" "Email" "subject") (by decide)).2.not_configured
  obtain ⟨f, -, -, -, hf, hf', -⟩ :=
    (linearize_rearranged Sample.unfinished_backwards).2.2 hisline hlacking
  exact ⟨Sample.unfinished_backwards, f, hf, hf', Except.error.inj (hf.symm.trans hflaw)⟩

end Definition
end Workflow
end Cadence
