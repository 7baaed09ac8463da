/-
# A stored workflow can be read

The document of a record names every field, so reading it finds each under its own name. What comes
back is the record (`decode_document`), if its texts are whole, all numbers in its nodes are finite,
and its times have offsets of whole minutes. Whatever the record holds otherwise, what is read from
its document has its id and its version (`decode_names`).

A number that is not finite does not come back: it is written as null. Where it was a coordinate of
a node, the document cannot be read at all, and this is left out here.

Key definitions: `Node.IsFinite`, `Stamp`, `Record.IsReadable`.
Key theorems: `itemsFrom_map`, `Node.decode_toJson`, `Definition.decode_toJson`,
`Record.decode_document`, `Record.decode_names`.
-/
import Cadence.Proofs.Decode.Moment
import Cadence.Proofs.Lead.Stored
import Cadence.Workflow.Files

namespace Cadence

open Decode Time

/-! ### Fields and items -/

namespace Decode

variable {α β : Type} {f : Json.Fields} {names : List String} {name : String} {j : Json}
  {check : Json → Checked α} {a b : α}

theorem field_ok (hentry : entry? names f = some (name, j)) (hcheck : check j = .ok a) :
    field names check f = .ok a := by
  unfold field
  rw [hentry]
  simp only [hcheck]
  rfl

theorem fieldOr_ok (hentry : entry? names f = some (name, j)) (hcheck : check j = .ok a) :
    fieldOr names b check f = .ok a := by
  unfold fieldOr
  rw [hentry]
  simp only [hcheck]
  rfl

theorem seq_ok {g : Checked (α → β)} {x : Checked α} {k : α → β} (hg : g = .ok k)
    (hx : x = .ok a) : g <*> x = .ok (k a) :=
  Checked.seq_eq_ok.2 ⟨k, a, hg, hx, rfl⟩

theorem map_ok {x : Checked α} {k : α → β} (hx : x = .ok a) : k <$> x = .ok (k a) :=
  Checked.map_eq_ok.2 ⟨a, hx, rfl⟩

theorem text_ok {s : String} (h : Text.Half.isIn s = false) : text (.str s) = .ok s := by
  unfold text
  simp only [h, Bool.false_eq_true, if_false]

theorem nullable_text_ok {o : Option String} (h : Whole o) :
    nullable text (.ofText? o) = .ok o := by
  cases o with
  | none => rfl
  | some s =>
    show (text (.str s)).map some = _
    rw [text_ok (h s rfl)]
    rfl

/-- A list of documents is read item by item. -/
theorem itemsFrom_map {write : β → Json} {check : Json → Checked β} : ∀ (l : List β) (i : Nat),
    (∀ b ∈ l, check (write b) = .ok b) → itemsFrom check i (l.map write) = .ok l
  | [], _, _ => rfl
  | b :: l, i, h => by
    rw [List.forall_mem_cons] at h
    rw [List.map_cons, itemsFrom, h.1, itemsFrom_map l (i + 1) h.2]
    rfl

end Decode

/-! ### Whole texts and finite numbers -/

namespace Json

/-- A list of documents is whole if each of them is. -/
theorem hasHalf_of_items {l : List Json} (h : itemsHaveHalf l = false) :
    ∀ j ∈ l, j.hasHalf = false := by
  induction l with
  | nil => exact fun j hj => absurd hj List.not_mem_nil
  | cons j l ih =>
    rw [itemsHaveHalf, Bool.or_eq_false_iff] at h
    exact List.forall_mem_cons.2 ⟨h.1, ih h.2⟩

theorem keys_whole : ∀ {f : Fields}, fieldsHaveHalf f = false →
    ∀ m ∈ f, Text.Half.isIn m.1 = false
  | [], _ => fun m hm => absurd hm List.not_mem_nil
  | (k, j) :: f, h => by
    rw [fieldsHaveHalf, Bool.or_eq_false_iff, Bool.or_eq_false_iff] at h
    exact List.forall_mem_cons.2 ⟨h.1.1, keys_whole h.2⟩

theorem whole_ofText? {o : Option String} (h : (ofText? o).hasHalf = false) : Whole o := by
  intro s hs
  rw [hs] at h
  exact h

theorem finiteItems_eq_self : ∀ {l : List Json}, (∀ j ∈ l, j.finiteOnly = j) → finiteItems l = l
  | [], _ => rfl
  | j :: l, h => by
    rw [List.forall_mem_cons] at h
    rw [finiteItems, h.1, finiteItems_eq_self h.2]

theorem finiteFields_eq_self : ∀ {f : Fields}, (∀ m ∈ f, m.2.finiteOnly = m.2) →
    finiteFields f = f
  | [], _ => rfl
  | (k, j) :: f, h => by
    rw [List.forall_mem_cons] at h
    rw [finiteFields, h.1, finiteFields_eq_self h.2]

theorem finiteOnly_float {x : Binary64} (h : x.isFinite = true) :
    (Json.float x).finiteOnly = .float x := by
  cases x with
  | finite n m e => rw [finiteOnly]
  | infinite n => cases h
  | nan => cases h

end Json

namespace Workflow

/-! ### Definitions -/

/-- All numbers in a node are finite. -/
structure Node.IsFinite (n : Node) : Prop where
  x : n.position.x.isFinite = true
  y : n.position.y.isFinite = true
  data : Json.finiteFields n.data = n.data

theorem Position.finiteOnly_toJson {p : Position} (hx : p.x.isFinite = true)
    (hy : p.y.isFinite = true) : p.toJson.finiteOnly = p.toJson := by
  refine congrArg Json.obj (Json.finiteFields_eq_self ?_)
  simp only [List.forall_mem_cons, Json.finiteOnly_float hx, Json.finiteOnly_float hy, true_and]
  exact fun m hm => absurd hm List.not_mem_nil

theorem Node.finiteOnly_toJson {n : Node} (h : n.IsFinite) : n.toJson.finiteOnly = n.toJson := by
  have hdata : (Json.obj n.data).finiteOnly = .obj n.data := congrArg Json.obj h.data
  refine congrArg Json.obj (Json.finiteFields_eq_self ?_)
  simp only [List.forall_mem_cons, h.data, hdata, Position.finiteOnly_toJson h.x h.y, true_and]
  exact ⟨rfl, rfl, fun m hm => absurd hm List.not_mem_nil⟩

/-- **A node is read back from its document.** -/
theorem Node.decode_toJson {n : Node} (h : n.IsFinite) (hw : n.toJson.hasHalf = false) :
    Node.decode n.toJson = .ok n := by
  simp only [toJson, Position.toJson, Json.hasHalf, Json.fieldsHaveHalf, h.data,
    Bool.or_eq_false_iff] at hw
  obtain ⟨⟨-, hid⟩, ⟨-, htype⟩, -, ⟨-, hdata⟩, -⟩ := hw
  have hposition : Position.decode n.position.toJson = .ok n.position := rfl
  have hdictionary : dictionary (.obj n.data) = .ok n.data := by
    have hfind : n.data.find? (fun m => Text.Half.isIn m.1) = none := by
      rw [List.find?_eq_none]
      intro m hm
      rw [Json.keys_whole hdata m hm]
      exact Bool.false_ne_true
    unfold dictionary
    simp only [hfind]
  unfold Node.decode record toJson
  rw [h.data]
  exact (seq_ok (seq_ok (seq_ok (map_ok (field_ok rfl (text_ok hid)))
    (field_ok rfl (text_ok htype))) (fieldOr_ok rfl hposition)) (fieldOr_ok rfl hdictionary)).trans
      rfl

/-- **An edge is read back from its document.** -/
theorem Edge.decode_toJson {e : Edge} (hw : e.toJson.hasHalf = false) :
    Edge.decode e.toJson = .ok e := by
  simp only [toJson, Json.hasHalf, Json.fieldsHaveHalf, Bool.or_eq_false_iff] at hw
  obtain ⟨⟨-, hid⟩, ⟨-, hsource⟩, ⟨-, htarget⟩, -⟩ := hw
  unfold Edge.decode record toJson
  exact (seq_ok (seq_ok (map_ok (fieldOr_ok rfl (text_ok hid))) (field_ok rfl (text_ok hsource)))
    (field_ok rfl (text_ok htarget))).trans rfl

/-- **A send window is read back from its document.** -/
theorem SendWindow.decode_toJson {w : SendWindow} (hw : w.toJson.hasHalf = false) :
    SendWindow.decode w.toJson = .ok w := by
  simp only [toJson, Json.hasHalf, Json.fieldsHaveHalf, Bool.or_eq_false_iff] at hw
  obtain ⟨-, ⟨-, hstart⟩, ⟨-, hend⟩, -, ⟨-, hzone⟩, -⟩ := hw
  have henabled : truth (.bool w.enabled) = .ok w.enabled := rfl
  have hdays : listOf integer (.arr (w.allowedDays.map .int)) = .ok w.allowedDays :=
    itemsFrom_map _ 0 fun _ _ => rfl
  unfold SendWindow.decode record toJson
  exact (seq_ok (seq_ok (seq_ok (seq_ok (map_ok (fieldOr_ok rfl henabled))
    (fieldOr_ok rfl (text_ok hstart))) (fieldOr_ok rfl (text_ok hend))) (fieldOr_ok rfl hdays))
      (fieldOr_ok rfl (nullable_text_ok (Json.whole_ofText? hzone)))).trans rfl

/-- **Settings are read back from their document.** -/
theorem Settings.decode_toJson {s : Settings} (hw : s.toJson.hasHalf = false) :
    Settings.decode s.toJson = .ok s := by
  simp only [toJson, Json.hasHalf, Json.fieldsHaveHalf, Bool.or_eq_false_iff] at hw
  have hwindow : nullable SendWindow.decode ((s.sendWindow.map SendWindow.toJson).getD .null) =
      .ok s.sendWindow := by
    cases hs : s.sendWindow with
    | none => rfl
    | some w =>
      have hwhole := hw.1.2
      rw [hs] at hwhole
      show (SendWindow.decode w.toJson).map some = _
      rw [SendWindow.decode_toJson hwhole]
      rfl
  unfold Settings.decode record toJson
  exact (map_ok (fieldOr_ok rfl hwindow)).trans rfl

/-- All numbers in a definition are finite. -/
def Definition.IsFinite (d : Definition) : Prop := ∀ n ∈ d.nodes, n.IsFinite

/-- **A definition is read back from its document.** -/
theorem Definition.decode_toJson {d : Definition} (h : d.IsFinite)
    (hw : d.toJson.hasHalf = false) : Definition.decode d.toJson = .ok d := by
  simp only [toJson, Json.hasHalf, Json.fieldsHaveHalf, Bool.or_eq_false_iff] at hw
  obtain ⟨⟨-, hnodes⟩, ⟨-, hedges⟩, ⟨-, hsettings⟩, -⟩ := hw
  have hnodes' : listOf Node.decode (.arr (d.nodes.map Node.toJson)) = .ok d.nodes :=
    itemsFrom_map _ 0 fun n hn =>
      Node.decode_toJson (h n hn) (Json.hasHalf_of_items hnodes _ (List.mem_map_of_mem hn))
  have hedges' : listOf Edge.decode (.arr (d.edges.map Edge.toJson)) = .ok d.edges :=
    itemsFrom_map _ 0 fun e he =>
      Edge.decode_toJson (Json.hasHalf_of_items hedges _ (List.mem_map_of_mem he))
  unfold Definition.decode record toJson
  exact (seq_ok (seq_ok (map_ok (fieldOr_ok rfl hnodes')) (fieldOr_ok rfl hedges'))
    (fieldOr_ok rfl (Settings.decode_toJson hsettings))).trans rfl

/-! ### What is written of a definition -/

theorem Edge.finiteOnly_toJson (e : Edge) : e.toJson.finiteOnly = e.toJson := rfl

theorem Settings.finiteOnly_toJson (s : Settings) : s.toJson.finiteOnly = s.toJson := by
  rcases s with ⟨_ | ⟨enabled, startTime, endTime, days, zone⟩⟩
  · rfl
  · have hdays : Json.finiteItems (days.map .int) = days.map .int := by
      refine Json.finiteItems_eq_self ?_
      intro j hj
      obtain ⟨i, -, rfl⟩ := List.mem_map.1 hj
      rfl
    cases zone <;>
      simp only [toJson, SendWindow.toJson, Option.map_some, Option.getD_some, Json.ofText?,
        Json.finiteOnly, Json.finiteFields, hdays]

theorem Definition.finiteOnly_toJson {d : Definition} (h : d.IsFinite) :
    d.toJson.finiteOnly = d.toJson := by
  have hnodes : Json.finiteItems (d.nodes.map Node.toJson) = d.nodes.map Node.toJson := by
    refine Json.finiteItems_eq_self ?_
    intro j hj
    obtain ⟨n, hn, rfl⟩ := List.mem_map.1 hj
    exact Node.finiteOnly_toJson (h n hn)
  have hedges : Json.finiteItems (d.edges.map Edge.toJson) = d.edges.map Edge.toJson := by
    refine Json.finiteItems_eq_self ?_
    intro j hj
    obtain ⟨e, -, rfl⟩ := List.mem_map.1 hj
    exact e.finiteOnly_toJson
  simp only [toJson, Json.finiteOnly, Json.finiteFields, hnodes, hedges,
    Settings.finiteOnly_toJson]

/-! ### Records -/

/-- A time that comes back as it was stored: its offset is known and a whole number of minutes. -/
structure Stamp (m : Moment) : Prop where
  valid : m.IsValid
  aware : m.offset.isSome = true
  minutes : WholeMinutes m

/-- All numbers of a record are finite, and its times come back as they are stored. -/
structure Record.IsReadable (r : Record) : Prop where
  finite : r.definition.IsFinite
  created : Stamp r.createdAt
  updated : Stamp r.updatedAt

/-- A record is read back from what is written of it, whether or not the offsets of its times are
known. -/
theorem Record.decode_finite {r : Record} (hfinite : r.definition.IsFinite)
    (hcreated : r.createdAt.IsValid ∧ WholeMinutes r.createdAt)
    (hupdated : r.updatedAt.IsValid ∧ WholeMinutes r.updatedAt) (hw : r.toJson.hasHalf = false)
    (now : Moment) : Record.decode now r.toJson.finiteOnly = .ok r := by
  have hwritten : r.toJson.finiteOnly = r.toJson := by
    have htext : (Json.ofText? r.description).finiteOnly = .ofText? r.description := by
      cases r.description <;> rfl
    refine congrArg Json.obj (Json.finiteFields_eq_self ?_)
    simp only [List.forall_mem_cons, htext, Definition.finiteOnly_toJson hfinite, true_and]
    exact ⟨rfl, rfl, rfl, rfl, rfl, rfl, fun m hm => absurd hm List.not_mem_nil⟩
  rw [hwritten]
  simp only [toJson, Json.hasHalf, Json.fieldsHaveHalf, Bool.or_eq_false_iff] at hw
  obtain ⟨⟨-, hid⟩, ⟨-, hname⟩, ⟨-, hdescription⟩, -, ⟨-, hdefinition⟩, -⟩ := hw
  have hstatus : Status.decode (.str r.status.name) = .ok r.status := by
    cases r.status <;> rfl
  have hversion : integer (.int r.version) = .ok r.version := rfl
  have hcreated' : moment (.str r.createdAt.wire) = .ok r.createdAt :=
    momentOfString_wire hcreated.1 hcreated.2
  have hupdated' : moment (.str r.updatedAt.wire) = .ok r.updatedAt :=
    momentOfString_wire hupdated.1 hupdated.2
  unfold Record.decode record toJson
  exact (seq_ok (seq_ok (seq_ok (seq_ok (seq_ok (seq_ok (seq_ok (map_ok
    (field_ok rfl (text_ok hid))) (field_ok rfl (text_ok hname)))
      (fieldOr_ok rfl (nullable_text_ok (Json.whole_ofText? hdescription))))
        (fieldOr_ok rfl hstatus)) (fieldOr_ok rfl (Definition.decode_toJson hfinite hdefinition)))
          (fieldOr_ok rfl hversion)) (fieldOr_ok rfl hcreated')) (fieldOr_ok rfl hupdated')).trans rfl

/-- **A record is read back from what is written of it.** -/
theorem Record.decode_document {r : Record} (h : r.IsReadable) (hw : r.toJson.hasHalf = false)
    (now : Moment) : Record.decode now r.toJson.finiteOnly = .ok r :=
  Record.decode_finite h.finite ⟨h.created.valid, h.created.minutes⟩
    ⟨h.updated.valid, h.updated.minutes⟩ hw now

/-- **What is read from the file of a record has its id and its version.** -/
theorem Record.decode_names {r r' : Record} {now : Moment}
    (h : Record.decode now r.toJson.finiteOnly = .ok r') :
    r'.id = r.id ∧ r'.version = r.version := by
  simp only [toJson, Json.finiteOnly, Json.finiteFields] at h
  unfold Record.decode record at h
  obtain ⟨f7, updatedAt, h7, -, rfl⟩ := Checked.seq_eq_ok.1 h
  obtain ⟨f6, createdAt, h6, -, rfl⟩ := Checked.seq_eq_ok.1 h7
  obtain ⟨f5, version, h5, hversion, rfl⟩ := Checked.seq_eq_ok.1 h6
  obtain ⟨f4, definition, h4, -, rfl⟩ := Checked.seq_eq_ok.1 h5
  obtain ⟨f3, status, h3, -, rfl⟩ := Checked.seq_eq_ok.1 h4
  obtain ⟨f2, description, h2, -, rfl⟩ := Checked.seq_eq_ok.1 h3
  obtain ⟨f1, name, h1, -, rfl⟩ := Checked.seq_eq_ok.1 h2
  obtain ⟨id, hid, rfl⟩ := Checked.map_eq_ok.1 h1
  have hid' : (text (.str r.id)).within (.key "id") = .ok id := hid
  have hversion' : (Checked.ok r.version).within (.key "version") = .ok version := hversion
  constructor
  · cases hhalf : Text.Half.isIn r.id with
    | true =>
      simp only [text, hhalf, if_true] at hid'
      cases hid'
    | false =>
      rw [text_ok hhalf] at hid'
      exact (Checked.ok.inj hid').symm
  · exact (Checked.ok.inj hversion').symm

end Workflow
end Cadence
