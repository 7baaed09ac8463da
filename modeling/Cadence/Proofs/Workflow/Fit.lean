/-
# Definitions that can be run stay so in their files

Putting a definition into a line looks at the ids and types of nodes, at edges, and among the data of
nodes only at texts and at finite numbers. Nulls in the place of other numbers make no difference to
it, so a definition that is read from its file has the very chain or the very flaw of the one that was
written (`linearize_written`).

A store is vetted if all its files are those of records with plain ids that can be run unless they are
drafts. Then the same is true of all records that are read from it (`Vetted.fit_of_read`), and each of
them is found again by its own id (`Vetted.found`). Saving keeps a store vetted if what is saved is
(`Vetted.save`).

Key definitions: `Record.IsFit`, `Vetted`.
Key theorems: `linearize_written`, `Vetted.fit_of_read`, `Vetted.save`, `Vetted.found`.
-/
import Cadence.Proofs.Workflow.Retrieved
import Cadence.Workflow.Linearize

namespace Cadence

/-! ### Data with nulls -/

namespace Json

@[simp]
theorem asText?_finiteOnly (j : Json) : j.finiteOnly.asText? = j.asText? := by
  cases j with
  | float x => cases x <;> rfl
  | _ => rfl

theorem get?_finiteFields (name : String) (f : Fields) :
    Fields.get? (finiteFields f) name = (Fields.get? f name).map finiteOnly := by
  induction f with
  | nil => rfl
  | cons m f ih =>
    obtain ⟨k, j⟩ := m
    unfold Fields.get? at ih ⊢
    simp only [finiteFields]
    by_cases hk : k = name
    · simp [hk]
    · simpa [hk] using ih

/-- A member that is missing and one that is null are the same to those who look for a value. -/
@[simp]
theorem getD_finiteFields (f : Fields) (name : String) :
    Fields.getD (finiteFields f) name = (Fields.getD f name).finiteOnly := by
  unfold Fields.getD
  rw [get?_finiteFields]
  cases Fields.get? f name <;> rfl

end Json

namespace Workflow

open Json

/-- An infinite amount is no more a whole number than none is. -/
@[simp]
theorem positive?_finiteOnly (j : Json) : positive? j.finiteOnly = positive? j := by
  cases j with
  | float x => cases x <;> rfl
  | _ => rfl

@[simp]
theorem filled?_finiteFields (data : Fields) (name : String) :
    filled? (finiteFields data) name = filled? data name := by
  simp only [filled?, getD_finiteFields, asText?_finiteOnly]

@[simp]
theorem requireText_finiteFields (id action name : String) (data : Fields) :
    requireText id action name (finiteFields data) = requireText id action name data := by
  simp only [requireText, filled?_finiteFields]

@[simp]
theorem toChainNode_written (n : Node) : toChainNode n.written = toChainNode n := by
  have hconfigure : configure n.written = configure n := by
    simp only [configure, Node.written, requireText_finiteFields, filled?_finiteFields,
      getD_finiteFields, positive?_finiteOnly, asText?_finiteOnly]
  simp only [toChainNode, hconfigure]
  rfl

/-! ### The line -/

theorem checkIds_written : ∀ (nodes : List Node) (seen : List String),
    checkIds seen (nodes.map Node.written) = checkIds seen nodes
  | [], _ => rfl
  | n :: nodes, seen => by
    simp only [List.map_cons, checkIds, Node.written, checkIds_written nodes]

theorem soleTrigger_written (nodes : List Node) :
    soleTrigger (nodes.map Node.written) = (soleTrigger nodes).map Node.written := by
  unfold soleTrigger
  rw [List.filter_map]
  simp only [Function.comp_def, Node.written]
  generalize nodes.filter _ = triggers
  rcases triggers with _ | ⟨t, _ | ⟨t', rest⟩⟩ <;> rfl

theorem checkEntries_written (trigger : String) (edges : List Edge) : ∀ nodes : List Node,
    checkEntries trigger edges (nodes.map Node.written) = checkEntries trigger edges nodes
  | [] => rfl
  | n :: nodes => by
    simp only [List.map_cons, checkEntries, Node.written, checkEntries_written trigger edges nodes]

/-- A walk meets the same nodes, as their file keeps them. By recursion on the steps. -/
theorem walk_written (edges : List Edge) : ∀ (steps : Nat) (left : List Node) (id : String),
    walk edges steps (left.map Node.written) id =
      (walk edges steps left id).map fun p => (p.1.map Node.written, p.2.map Node.written)
  | 0, _, _ => rfl
  | steps + 1, left, id => by
    have hfind : (left.map Node.written).find? (·.id = id) =
        (left.find? (·.id = id)).map Node.written := List.find?_map
    have herase : (left.map Node.written).eraseP (·.id = id) =
        (left.eraseP (·.id = id)).map Node.written := List.eraseP_map
    unfold walk
    rw [hfind, herase]
    cases left.find? (·.id = id) with
    | none => rfl
    | some n =>
      dsimp only [Option.map_some]
      cases next? edges id with
      | none => rfl
      | some next =>
        dsimp only
        rw [walk_written edges steps]
        cases walk edges steps (left.eraseP (·.id = id)) next <;> rfl

theorem line_written (d : Definition) : d.written.line = d.line.map (List.map Node.written) := by
  have hids : (d.nodes.map Node.written).map (·.id) = d.nodes.map (·.id) := by
    rw [List.map_map]
    rfl
  unfold Definition.line Definition.written
  simp only [checkIds_written, soleTrigger_written, hids, List.length_map]
  cases checkIds [] d.nodes with
  | error flaw => rfl
  | ok _ =>
    cases soleTrigger d.nodes with
    | error flaw => rfl
    | ok trigger =>
      simp only [Except.map, bind, Except.bind, checkEntries_written, walk_written]
      cases checkEdges (d.nodes.map (·.id)) [] d.edges with
      | error flaw => rfl
      | ok _ =>
        simp only [Node.written]
        cases checkEntries trigger.id d.edges d.nodes with
        | error flaw => rfl
        | ok _ =>
          rcases walk d.edges d.nodes.length d.nodes trigger.id with flaw | ⟨met, _ | ⟨n, left⟩⟩ <;>
            rfl

/-- **A definition gives the same chain or has the same flaw as its file keeps it.** -/
@[simp]
theorem linearize_written (d : Definition) : d.written.linearize = d.linearize := by
  unfold Definition.linearize
  rw [line_written]
  cases d.line with
  | error flaw => rfl
  | ok nodes =>
    have hnodes : (nodes.map Node.written).mapM toChainNode = nodes.mapM toChainNode := by
      rw [List.mapM_map]
      simp only [Function.comp_def, toChainNode_written]
    simp only [Except.map, bind, Except.bind, hnodes]

/-! ### Vetted stores -/

/-- Unless a record is a draft, its definition can be run. -/
def Record.IsFit (r : Record) : Prop := r.status ≠ .draft → ∃ chain, r.definition.linearize = .ok chain

/-- A record as the files of a vetted store have it. -/
structure Record.IsVetted (r : Record) : Prop where
  plain : IsPlainId r.id
  version : 0 ≤ r.version
  whole : r.toJson.hasHalf = false
  fit : r.IsFit

/-- All files of a store are those of vetted records. -/
def Vetted (files : Files) : Prop := ∀ f ∈ files, ∃ r, f = File.of r ∧ r.IsVetted

theorem hasHalf_definition {r : Record} (h : r.toJson.hasHalf = false) :
    r.definition.toJson.hasHalf = false := by
  simp only [Record.toJson, Json.hasHalf, Json.fieldsHaveHalf, Bool.or_eq_false_iff] at h
  exact h.2.2.2.2.1.2

/-- What is read from the file of a record that is fit is fit. -/
theorem Record.IsVetted.fit_of_read {r x : Record} (h : r.IsVetted) {now : Time.Moment}
    (hread : (File.of r).read now = .ok x) : x.IsFit := by
  obtain ⟨hstatus, hdefinition⟩ := Record.decode_parts (decode_of_read.1 hread)
  obtain ⟨-, hx⟩ := (Definition.decode_iff (hasHalf_definition h.whole)).1 hdefinition
  intro hne
  rw [hstatus] at hne
  rw [hx, linearize_written]
  exact h.fit hne

namespace Vetted

variable {files : Files} {now : Time.Moment}

theorem nil : Vetted [] := fun _ hf => absurd hf List.not_mem_nil

theorem made (h : Vetted files) : ∀ f ∈ files, ∃ r, f = File.of r := by
  intro f hf
  obtain ⟨r, hr, -⟩ := h f hf
  exact ⟨r, hr⟩

/-- **Every record that is read from a vetted store is fit.** -/
theorem fit_of_read (h : Vetted files) {f : File} (hf : f ∈ files) {x : Record}
    (hread : f.read now = .ok x) : x.IsFit := by
  obtain ⟨r, rfl, hr⟩ := h f hf
  exact hr.fit_of_read hread

/-- What is loaded from a vetted store. -/
theorem loaded (h : Vetted files) {id : String} {x : Record}
    (hload : files.load now id = .ok (some x)) : ∃ r, File.of r ∈ files ∧ r.IsVetted ∧
      x.id = r.id ∧ x.version = r.version ∧ x.IsFit := by
  obtain ⟨f, hf, hread⟩ := read_of_load hload
  obtain ⟨r, rfl, hr⟩ := h f hf
  obtain ⟨hid, hversion⟩ := read_of hread
  exact ⟨r, hf, hr, hid, hversion, hr.fit_of_read hread⟩

/-- **What is loaded from a vetted store is found by its own id**, whatever it was asked for by. -/
theorem found (h : Vetted files) {id : String} {x : Record}
    (hload : files.load now id = .ok (some x)) : files.load now x.id ≠ .ok none := by
  obtain ⟨r, hf, hr, hid, -, -⟩ := h.loaded hload
  have hcounts : (File.of r).counts r.id = true := (counts_iff hr.plain r).2 ⟨rfl, hr.version⟩
  rw [hid]
  rcases Files.load_cases h.made hr.plain.slash hr.plain.hasPair now with ⟨hnone, -⟩ | ⟨s, -, hs, -⟩
  · have hmem : File.of r ∈ files.filter (File.counts r.id) := List.mem_filter.2 ⟨hf, hcounts⟩
    rw [hnone] at hmem
    exact absurd hmem List.not_mem_nil
  · rw [hs]
    cases (File.of s).read now <;> rintro ⟨⟩

/-- **Saving keeps a store vetted**, if what is saved has a plain id and no negative number and is
fit. -/
theorem save (h : Vetted files) {r : Record} (hid : IsPlainId r.id) (hversion : 0 ≤ r.version)
    (hfit : r.IsFit) : Vetted ((Request.save now r).after files) := by
  rcases Request.after_save_cases now hid.slash files with hsame | ⟨o, hload, hcan, -, hnew⟩
  · rw [hsame]
    exact h
  · rw [hnew]
    have hwhole := hasHalf_of_canPublish hcan
    refine List.forall_mem_cons.2 ⟨⟨_, rfl, ?_⟩, h⟩
    cases o with
    | none => exact ⟨hid, hversion, hwhole, hfit⟩
    | some current =>
      obtain ⟨s, -, hs, -, hcurrent, -⟩ := h.loaded hload
      have hnext : 0 ≤ current.version + 1 := by
        have hnonneg := hs.version
        omega
      exact ⟨hid, hnext, hwhole, hfit⟩

/-- Deleting keeps a store vetted. -/
theorem delete (h : Vetted files) (id : String) : Vetted ((Request.delete id).after files) :=
  fun f hf => h f ((Request.after_delete_sublist id files).subset hf)

end Vetted
end Workflow
end Cadence
