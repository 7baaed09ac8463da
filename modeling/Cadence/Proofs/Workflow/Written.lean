/-
# What a file keeps of a record

A file keeps null in the place of every number that is not finite. Among the data of a node null is a
value like others, so what is read is the record with nulls there (`Record.written`). A coordinate
cannot be null: the file of a record with a node that is not placed cannot be read at all. These are
the only ways in which a file and its record drift apart (`Record.decode_iff`); a record that was read
from a document has times that come back as they are (`Record.isTimed_of_decode`).

Key definitions: `Node.IsPlaced`, `Record.written`, `Record.IsTimed`.
Key theorems: `finiteOnly_idem`, `Definition.decode_iff`, `Record.decode_iff`, `Record.decode_parts`,
`Record.isTimed_of_decode`.
-/
import Cadence.Proofs.Decode.Sound
import Cadence.Proofs.Workflow.Readable

namespace Cadence

open Decode Time

/-! ### Documents -/

namespace Json

mutual

/-- Nothing more becomes null where nulls were put. -/
theorem finiteOnly_idem : ∀ j : Json, j.finiteOnly.finiteOnly = j.finiteOnly
  | .null => rfl
  | .bool _ => rfl
  | .int _ => rfl
  | .float (.finite _ _ _) => rfl
  | .float (.infinite _) => rfl
  | .float .nan => rfl
  | .str _ => rfl
  | .arr items => congrArg Json.arr (finiteItems_idem items)
  | .obj fields => congrArg Json.obj (finiteFields_idem fields)

theorem finiteItems_idem : ∀ l : List Json, finiteItems (finiteItems l) = finiteItems l
  | [] => rfl
  | j :: l => by rw [finiteItems, finiteItems, finiteOnly_idem j, finiteItems_idem l]

theorem finiteFields_idem : ∀ f : Fields, finiteFields (finiteFields f) = finiteFields f
  | [] => rfl
  | (k, j) :: f => by rw [finiteFields, finiteFields, finiteOnly_idem j, finiteFields_idem f]

end

theorem finiteItems_eq_map : ∀ l : List Json, finiteItems l = l.map finiteOnly
  | [] => rfl
  | j :: l => by rw [finiteItems, finiteItems_eq_map l, List.map_cons]

end Json

namespace Decode

variable {α : Type} {check : Json → Checked α}

theorem within_eq_ok {p : Place} {x : Checked α} {a : α} : x.within p = .ok a ↔ x = .ok a := by
  cases x with
  | ok a' => rfl
  | bad i is =>
    constructor <;>
    · intro h
      cases h

/-- Every item of a list that was read was read. -/
theorem ok_of_itemsFrom : ∀ {items : List Json} {i : Nat} {as : List α},
    itemsFrom check i items = .ok as → ∀ j ∈ items, ∃ a, check j = .ok a
  | [], _, _, _ => fun j hj => absurd hj List.not_mem_nil
  | j :: items, i, as, h => by
    rw [itemsFrom] at h
    obtain ⟨g, rest, hg, hrest, -⟩ := Checked.seq_eq_ok.1 h
    obtain ⟨a, ha, -⟩ := Checked.map_eq_ok.1 hg
    exact List.forall_mem_cons.2 ⟨⟨a, within_eq_ok.1 ha⟩, ok_of_itemsFrom hrest⟩

end Decode

namespace Workflow

/-! ### Definitions -/

/-- The coordinates of a node are finite. -/
def Node.IsPlaced (n : Node) : Prop :=
  n.position.x.isFinite = true ∧ n.position.y.isFinite = true

/-- All nodes of a definition have finite coordinates. -/
def Definition.IsPlaced (d : Definition) : Prop := ∀ n ∈ d.nodes, n.IsPlaced

/-- A node as its file keeps it. -/
def Node.written (n : Node) : Node := { n with data := Json.finiteFields n.data }

/-- A definition as its file keeps it. -/
def Definition.written (d : Definition) : Definition := { d with nodes := d.nodes.map Node.written }

@[simp]
theorem Node.toJson_written (n : Node) : n.written.toJson = n.toJson := by
  simp only [toJson, written, Json.finiteFields_idem]

@[simp]
theorem Definition.toJson_written (d : Definition) : d.written.toJson = d.toJson := by
  simp only [toJson, written, List.map_map, Function.comp_def, Node.toJson_written]

/-- What was written of placed nodes is finite. -/
theorem Definition.IsPlaced.isFinite {d : Definition} (h : d.IsPlaced) : d.written.IsFinite := by
  intro n hn
  obtain ⟨m, hm, rfl⟩ := List.mem_map.1 hn
  exact ⟨(h m hm).1, (h m hm).2, Json.finiteFields_idem m.data⟩

/-- A definition is kept as it is exactly if the data of its nodes are finite. -/
theorem Definition.written_eq_self {d : Definition} :
    d.written = d ↔ ∀ n ∈ d.nodes, Json.finiteFields n.data = n.data := by
  constructor
  · intro h n hn
    rw [← h] at hn
    obtain ⟨m, -, rfl⟩ := List.mem_map.1 hn
    exact Json.finiteFields_idem m.data
  · intro h
    have hnodes : d.nodes.map Node.written = d.nodes := by
      conv_rhs => rw [← List.map_id d.nodes]
      refine List.map_congr_left ?_
      intro n hn
      unfold Node.written
      rw [h n hn]
      rfl
    unfold Definition.written
    rw [hnodes]

/-- A finite definition is one with placed nodes that is kept as it is. -/
theorem Definition.isFinite_iff {d : Definition} : d.IsFinite ↔ d.IsPlaced ∧ d.written = d := by
  rw [Definition.written_eq_self]
  constructor
  · exact fun h => ⟨fun n hn => ⟨(h n hn).x, (h n hn).y⟩, fun n hn => (h n hn).data⟩
  · exact fun h n hn => ⟨(h.1 n hn).1, (h.1 n hn).2, h.2 n hn⟩

/-- A coordinate is read from what is kept of it only if it is finite. -/
theorem isFinite_of_number {x y : Binary64} (h : number (Json.float x).finiteOnly = .ok y) :
    x.isFinite = true := by
  cases x with
  | finite n m e => rfl
  | infinite n => cases h
  | nan => cases h

/-- The node of a document that can be read is placed. -/
theorem Node.isPlaced_of_decode {n m : Node} (h : Node.decode n.toJson.finiteOnly = .ok m) :
    n.IsPlaced := by
  obtain ⟨f, data, hf, -, -⟩ := Checked.seq_eq_ok.1 h
  obtain ⟨g, position, hg, hposition, -⟩ := Checked.seq_eq_ok.1 hf
  have hdecode : (Position.decode n.position.toJson.finiteOnly).within (.key "position") =
      .ok position := hposition
  obtain ⟨k, y, hk, hy, -⟩ := Checked.seq_eq_ok.1 (within_eq_ok.1 hdecode)
  obtain ⟨x, hx, -⟩ := Checked.map_eq_ok.1 hk
  have hx' : (number (Json.float n.position.x).finiteOnly).within (.key "x") = .ok x := hx
  have hy' : (number (Json.float n.position.y).finiteOnly).within (.key "y") = .ok y := hy
  exact ⟨isFinite_of_number (within_eq_ok.1 hx'), isFinite_of_number (within_eq_ok.1 hy')⟩

/-- The nodes of a document that can be read are placed. -/
theorem Definition.isPlaced_of_decode {d e : Definition}
    (h : Definition.decode d.toJson.finiteOnly = .ok e) : d.IsPlaced := by
  obtain ⟨f, settings, hf, -, -⟩ := Checked.seq_eq_ok.1 h
  obtain ⟨g, edges, hg, -, -⟩ := Checked.seq_eq_ok.1 hf
  obtain ⟨nodes, hnodes, -⟩ := Checked.map_eq_ok.1 hg
  have hitems : (itemsFrom Node.decode 0 (Json.finiteItems (d.nodes.map Node.toJson))).within
      (.key "nodes") = .ok nodes := hnodes
  intro n hn
  have hmem : n.toJson.finiteOnly ∈ Json.finiteItems (d.nodes.map Node.toJson) := by
    rw [Json.finiteItems_eq_map, List.map_map]
    exact List.mem_map_of_mem hn
  obtain ⟨m, hm⟩ := ok_of_itemsFrom (within_eq_ok.1 hitems) _ hmem
  exact Node.isPlaced_of_decode hm

/-- **A definition is read from its document as it was written**, if its nodes are placed, and else
not at all. -/
theorem Definition.decode_iff {d e : Definition} (hw : d.toJson.hasHalf = false) :
    Definition.decode d.toJson.finiteOnly = .ok e ↔ d.IsPlaced ∧ e = d.written := by
  have hwritten : d.IsPlaced → Definition.decode d.toJson.finiteOnly = .ok d.written := by
    intro hplaced
    have hdecode := Definition.decode_toJson hplaced.isFinite (by rw [toJson_written]; exact hw)
    rw [← Definition.finiteOnly_toJson hplaced.isFinite, toJson_written] at hdecode
    exact hdecode
  constructor
  · intro h
    have hplaced := Definition.isPlaced_of_decode h
    rw [hwritten hplaced] at h
    exact ⟨hplaced, (Checked.ok.inj h).symm⟩
  · rintro ⟨hplaced, rfl⟩
    exact hwritten hplaced

/-! ### Records -/

/-- A record as its file keeps it. -/
def Record.written (r : Record) : Record := { r with definition := r.definition.written }

/-- The times of a record come back as they are stored. -/
structure Record.IsTimed (r : Record) : Prop where
  created : r.createdAt.IsValid ∧ WholeMinutes r.createdAt
  updated : r.updatedAt.IsValid ∧ WholeMinutes r.updatedAt

@[simp]
theorem Record.toJson_written (r : Record) : r.written.toJson = r.toJson := by
  simp only [toJson, written, Definition.toJson_written]

theorem Record.written_eq_self {r : Record} : r.written = r ↔ r.definition.written = r.definition := by
  constructor
  · exact fun h => congrArg Record.definition h
  · intro h
    unfold Record.written
    rw [h]

/-- What is read from the document of a record has its status, and its definition is the one that is
read. -/
theorem Record.decode_parts {r x : Record} {now : Moment}
    (h : Record.decode now r.toJson.finiteOnly = .ok x) :
    x.status = r.status ∧ Definition.decode r.definition.toJson.finiteOnly = .ok x.definition := by
  simp only [toJson, Json.finiteOnly, Json.finiteFields] at h
  obtain ⟨f7, updatedAt, h7, -, rfl⟩ := Checked.seq_eq_ok.1 h
  obtain ⟨f6, createdAt, h6, -, rfl⟩ := Checked.seq_eq_ok.1 h7
  obtain ⟨f5, version, h5, -, rfl⟩ := Checked.seq_eq_ok.1 h6
  obtain ⟨f4, definition, h4, hdefinition, rfl⟩ := Checked.seq_eq_ok.1 h5
  obtain ⟨f3, status, h3, hstatus, rfl⟩ := Checked.seq_eq_ok.1 h4
  obtain ⟨f2, description, h2, -, rfl⟩ := Checked.seq_eq_ok.1 h3
  obtain ⟨f1, name, h1, -, rfl⟩ := Checked.seq_eq_ok.1 h2
  obtain ⟨id, -, rfl⟩ := Checked.map_eq_ok.1 h1
  have hstatus' : (Status.decode (.str r.status.name)).within (.key "status") = .ok status := hstatus
  have hdefinition' : (Definition.decode r.definition.toJson.finiteOnly).within
      (.key "definition") = .ok definition := hdefinition
  have hname : Status.decode (.str r.status.name) = .ok r.status := by
    cases r.status <;> rfl
  rw [within_eq_ok, hname] at hstatus'
  exact ⟨(Checked.ok.inj hstatus').symm, within_eq_ok.1 hdefinition'⟩

/-- **A record is read from its document as it was written**, if its nodes are placed, and else not at
all. -/
theorem Record.decode_iff {r x : Record} {now : Moment} (ht : r.IsTimed)
    (hw : r.toJson.hasHalf = false) :
    Record.decode now r.toJson.finiteOnly = .ok x ↔ r.definition.IsPlaced ∧ x = r.written := by
  have hwritten : r.definition.IsPlaced → Record.decode now r.toJson.finiteOnly = .ok r.written := by
    intro hplaced
    have hdecode := Record.decode_finite (r := r.written) hplaced.isFinite ht.created ht.updated
      (by rw [toJson_written]; exact hw) now
    rw [toJson_written] at hdecode
    exact hdecode
  constructor
  · intro h
    have hplaced := Definition.isPlaced_of_decode (Record.decode_parts h).2
    rw [hwritten hplaced] at h
    exact ⟨hplaced, (Checked.ok.inj h).symm⟩
  · rintro ⟨hplaced, rfl⟩
    exact hwritten hplaced

/-- A time that a document may leave out. -/
theorem moment_of_fieldOr {names : List String} {now m : Moment} {f : Json.Fields}
    (hnow : now.IsValid ∧ WholeMinutes now) (h : fieldOr names now moment f = .ok m) :
    m.IsValid ∧ WholeMinutes m := by
  unfold fieldOr at h
  split at h
  · exact moment_spec (within_eq_ok.1 h)
  · rw [← Checked.ok.inj h]
    exact hnow

/-- **The times of a record that was read from a document come back as they are stored.** -/
theorem Record.isTimed_of_decode {r : Record} {now : Moment} {j : Json}
    (hnow : now.IsValid ∧ WholeMinutes now) (h : Record.decode now j = .ok r) : r.IsTimed := by
  unfold Record.decode record at h
  split at h
  · obtain ⟨f7, updatedAt, h7, hupdated, rfl⟩ := Checked.seq_eq_ok.1 h
    obtain ⟨f6, createdAt, h6, hcreated, rfl⟩ := Checked.seq_eq_ok.1 h7
    obtain ⟨f5, version, h5, -, rfl⟩ := Checked.seq_eq_ok.1 h6
    obtain ⟨f4, definition, h4, -, rfl⟩ := Checked.seq_eq_ok.1 h5
    obtain ⟨f3, status, h3, -, rfl⟩ := Checked.seq_eq_ok.1 h4
    obtain ⟨f2, description, h2, -, rfl⟩ := Checked.seq_eq_ok.1 h3
    obtain ⟨f1, name, h1, -, rfl⟩ := Checked.seq_eq_ok.1 h2
    obtain ⟨id, -, rfl⟩ := Checked.map_eq_ok.1 h1
    exact ⟨moment_of_fieldOr hnow hcreated, moment_of_fieldOr hnow hupdated⟩
  · cases h

end Workflow
end Cadence
