/-
# A row is read as the enrollment it keeps

`Row.read` gives back the enrollment that a row was made of (`read_ofEnrollment`), if its texts are
whole and its times are such as can be read (`Storable`). Recording a run in such a row makes the
row of the enrollment with the run (`recorded_ofEnrollment`), so as long as enrollments stay
storable the store can be thought of as holding enrollments. A row that is `Legible` is that of such
an enrollment if its time of completion and its due time can be read as well.

Key definitions: `Readable`, `Storable`, `Row.Reads`, `Row.Legible`.
Key theorems: `read_eq_ok`, `read_ofEnrollment`, `recorded_ofEnrollment`, `find?_modify`,
`Row.Legible.storable`.
-/
import Cadence.Proofs.Checks
import Cadence.Proofs.Decode.Moment
import Cadence.Proofs.Enrollment.Rows
import Cadence.Proofs.Lead.Stored

namespace Cadence
namespace Enrollment

open Time

/-! ### Reading a row -/

/-- A time that is read back from its text. -/
structure Readable (m : Moment) : Prop where
  valid : m.IsValid
  wholeMinutes : Decode.WholeMinutes m

theorem Readable.readTime {m : Moment} (h : Readable m) : readTime m.iso = .ok m := by
  unfold Enrollment.readTime
  rw [Decode.momentOfString_iso h.valid h.wholeMinutes]
  rfl

/-- What is read from the text of a time is the time. -/
theorem readTime_of_iso {m m' : Moment} (h : m.IsValid) (hread : readTime m.iso = .ok m') :
    m' = m := by
  unfold Enrollment.readTime readBack at hread
  split at hread
  · rename_i at_ hat
    cases hread
    exact Decode.momentOfString_of_iso h hat
  · cases hread

/-- Times in universal time can be read. -/
theorem readable_of_utc {m : Moment} (h : m.IsValid) (hu : m.offset = some 0) : Readable m := by
  refine ⟨h, ?_⟩
  intro o ho
  rw [hu] at ho
  cases ho
  rfl

theorem readable_universal {m : Moment} (h : m.IsValid)
    (hu : m.assumeUtc.toUtc.isSome = true) : Readable m.universal := by
  obtain ⟨hvalid, hzero⟩ := Decode.universal_spec h hu
  exact readable_of_utc hvalid hzero

/-- An enrollment that is read back from its row. -/
structure Storable (e : Enrollment) : Prop where
  lead : e.lead.IsWhole
  overrides : e.overrides.IsWhole
  steps : ∀ s ∈ e.steps, Readable s.createdAt
  createdAt : Readable e.createdAt
  completedAt : ∀ m ∈ e.completedAt, Readable m
  resumeAt : ∀ m ∈ e.resumeAt, Readable m

theorem read_steps : ∀ {steps : List Step}, (∀ s ∈ steps, Readable s.createdAt) →
    (steps.map StepRow.ofStep).mapM StepRow.read = .ok steps := by
  intro steps h
  rw [mapM_eq_ok]
  induction steps with
  | nil => exact .nil
  | cons s steps ih =>
    refine .cons ?_ (ih fun s' hs' => h s' (List.mem_cons_of_mem _ hs'))
    unfold StepRow.read
    exact bind_eq_ok.2 ⟨s.createdAt, (h s List.mem_cons_self).readTime, rfl⟩

theorem read_times {o : Option Moment} (h : ∀ m ∈ o, Readable m) :
    (o.map Moment.iso).mapM readTime = .ok o := by
  cases o with
  | none => rfl
  | some m =>
    show some <$> readTime m.iso = .ok (some m)
    rw [(h m rfl).readTime]
    rfl

/-- A time that may be missing is read from its text as it was written. -/
theorem read_times_of_iso {T : Moment → Prop} (hT : ∀ m, T m → m.IsValid) {o : Option String}
    {o' : Option Moment} (ho : ∀ text ∈ o, ∃ m, T m ∧ text = m.iso)
    (hread : o.mapM readTime = .ok o') : o = o'.map Moment.iso ∧ ∀ m ∈ o', T m := by
  cases o with
  | none =>
    rw [← Except.ok.inj hread]
    exact ⟨rfl, fun m hm => by cases hm⟩
  | some text =>
    obtain ⟨m, hm, rfl⟩ := ho text rfl
    obtain ⟨m', htime, hback⟩ := map_eq_ok.1 hread
    obtain rfl := readTime_of_iso (hT m hm) htime
    rw [← hback]
    exact ⟨rfl, fun m hm' => by cases hm'; exact hm⟩

/-- What is read from a row, part by part. -/
structure Row.Reads (r : Row) (e : Enrollment) : Prop where
  id : e.id = r.id
  workflowId : e.workflowId = r.workflowId
  source : e.source = r.source
  status : e.status = r.status
  steps : r.steps.mapM StepRow.read = .ok e.steps
  lead : readBack (Lead.decode (.obj r.lead)) = .ok e.lead
  overrides : readBack (Overrides.decode (.obj r.overrides)) = .ok e.overrides
  createdAt : readTime r.createdAt = .ok e.createdAt
  completedAt : r.completedAt.mapM readTime = .ok e.completedAt
  resumeAt : r.resumeAt.mapM readTime = .ok e.resumeAt

theorem read_eq_ok {r : Row} {e : Enrollment} : r.read = .ok e ↔ r.Reads e := by
  unfold Row.read
  constructor
  · intro h
    obtain ⟨steps, hsteps, h⟩ := bind_eq_ok.1 h
    obtain ⟨lead, hlead, h⟩ := bind_eq_ok.1 h
    obtain ⟨overrides, hoverrides, h⟩ := bind_eq_ok.1 h
    obtain ⟨createdAt, hcreated, h⟩ := bind_eq_ok.1 h
    obtain ⟨completedAt, hcompleted, h⟩ := bind_eq_ok.1 h
    obtain ⟨resumeAt, hresume, h⟩ := bind_eq_ok.1 h
    cases h
    exact ⟨rfl, rfl, rfl, rfl, hsteps, hlead, hoverrides, hcreated, hcompleted, hresume⟩
  · intro h
    obtain ⟨id, workflowId, source, lead, overrides, status, steps, createdAt, completedAt,
      resumeAt⟩ := e
    obtain ⟨rfl, rfl, rfl, rfl, hsteps, hlead, hoverrides, hcreated, hcompleted, hresume⟩ := h
    exact bind_eq_ok.2 ⟨_, hsteps, bind_eq_ok.2 ⟨_, hlead, bind_eq_ok.2 ⟨_, hoverrides,
      bind_eq_ok.2 ⟨_, hcreated, bind_eq_ok.2 ⟨_, hcompleted,
        bind_eq_ok.2 ⟨_, hresume, rfl⟩⟩⟩⟩⟩⟩

/-- **A row is read as the enrollment it was made of.** -/
theorem read_ofEnrollment {e : Enrollment} (h : Storable e) : (Row.ofEnrollment e).read = .ok e := by
  have hlead : readBack (Lead.decode (.obj (keptFields e.lead.toJson))) = .ok e.lead := by
    rw [Lead.decode_keptFields h.lead]
    rfl
  have hoverrides : readBack (Overrides.decode (.obj (keptFields e.overrides.toJson))) =
      .ok e.overrides := by
    rw [Overrides.decode_keptFields h.overrides]
    rfl
  exact read_eq_ok.2 ⟨rfl, rfl, rfl, rfl, read_steps h.steps, hlead, hoverrides,
    h.createdAt.readTime, read_times h.completedAt, read_times h.resumeAt⟩

/-! ### Recording a run -/

/-- An enrollment with a run recorded in it. -/
def withRun (e : Enrollment) (steps : List Step) (status : Status)
    (completedAt resumeAt : Option Moment) : Enrollment :=
  { e with steps := e.steps ++ steps, status, completedAt, resumeAt }

theorem recorded_ofEnrollment (e : Enrollment) (steps : List Step) (status : Status)
    (completedAt resumeAt : Option Moment) :
    recorded steps status completedAt resumeAt (Row.ofEnrollment e) =
      Row.ofEnrollment (e.withRun steps status completedAt resumeAt) := by
  unfold recorded Row.ofEnrollment withRun
  simp only [List.map_append]

/-- A row is found again after it was changed. -/
theorem find?_modify (id : String) {f : Row → Row} (hf : ∀ r, (f r).id = r.id) :
    ∀ rows : Rows, (rows.modify id f).find? id = (rows.find? id).map f
  | [] => rfl
  | r :: rows => by
    have ih := find?_modify id hf rows
    unfold Rows.modify Rows.find? at ih ⊢
    rw [List.map_cons]
    by_cases hr : r.id = id
    · rw [if_pos hr, List.find?_cons_of_pos (by simpa using (hf r).trans hr),
        List.find?_cons_of_pos (by simpa using hr)]
      rfl
    · rw [if_neg hr, List.find?_cons_of_neg (by simpa using hr),
        List.find?_cons_of_neg (by simpa using hr), ih]

theorem find?_append_new {rows : Rows} {r : Row} (h : rows.find? r.id = none) :
    Rows.find? (rows ++ [r]) r.id = some r := by
  unfold Rows.find? at h ⊢
  rw [List.find?_append, h, Option.none_or, List.find?_cons_of_pos (by simp)]

/-- A storable enrollment is found by its id. -/
theorem get_of_find? {rows : Rows} {e : Enrollment} (h : Storable e)
    (hrow : rows.find? e.id = some (Row.ofEnrollment e)) : rows.get e.id = .ok (some e) := by
  unfold Rows.get
  rw [hrow]
  exact bind_eq_ok.2 ⟨e, read_ofEnrollment h, rfl⟩

/-! ### Rows that can be read -/

/-- A row whose texts are whole and whose times can be read, except perhaps the time of completion
and the due time. -/
structure Row.Legible (r : Row) : Prop where
  lead : ∃ lead : Lead, lead.IsWhole ∧ r.lead = keptFields lead.toJson
  overrides : ∃ o : Overrides, o.IsWhole ∧ r.overrides = keptFields o.toJson
  createdAt : ∃ m, Readable m ∧ r.createdAt = m.iso
  times : ∀ t ∈ r.steps, ∃ m, Readable m ∧ t.createdAt = m.iso

/-- Stored steps whose times can be read are those of steps. -/
theorem steps_of_times : ∀ {rows : List StepRow},
    (∀ t ∈ rows, ∃ m, Readable m ∧ t.createdAt = m.iso) →
    ∃ steps : List Step, (∀ s ∈ steps, Readable s.createdAt) ∧ rows = steps.map StepRow.ofStep := by
  intro rows htimes
  induction rows with
  | nil => exact ⟨[], fun _ hs => absurd hs List.not_mem_nil, rfl⟩
  | cons t rows ih =>
    obtain ⟨m, hm, ht⟩ := htimes t List.mem_cons_self
    obtain ⟨steps, hsteps, heq⟩ := ih fun t ht => htimes t (List.mem_cons_of_mem _ ht)
    refine ⟨⟨t.nodeId, t.nodeType, t.status, t.output, m⟩ :: steps, ?_, ?_⟩
    · intro s hs
      rcases List.mem_cons.1 hs with rfl | hs
      · exact hm
      · exact hsteps s hs
    · rw [List.map_cons, ← heq]
      refine congrArg (· :: rows) ?_
      unfold StepRow.ofStep
      rw [← ht]

/-- Steps whose times can be read are read as they are. -/
theorem read_steps_of_times {rows : List StepRow} {steps : List Step}
    (htimes : ∀ t ∈ rows, ∃ m, Readable m ∧ t.createdAt = m.iso)
    (hread : rows.mapM StepRow.read = .ok steps) : rows = steps.map StepRow.ofStep := by
  obtain ⟨steps', hsteps, rfl⟩ := steps_of_times htimes
  rw [read_steps hsteps] at hread
  rw [Except.ok.inj hread]

namespace Row.Legible

variable {r : Row}

/-- What is read from a legible row. -/
theorem read (h : r.Legible) {e : Enrollment} (hread : r.read = .ok e) :
    e.lead.IsWhole ∧ r.steps = e.steps.map StepRow.ofStep := by
  have hreads := read_eq_ok.1 hread
  obtain ⟨lead, hwhole, hkept⟩ := h.lead
  have hlead := hreads.lead
  rw [hkept, Lead.decode_keptFields hwhole] at hlead
  rw [← Except.ok.inj hlead]
  exact ⟨hwhole, read_steps_of_times h.times hreads.steps⟩

/-- A legible row is that of an enrollment, if its other times can be read as well. -/
theorem storable (h : r.Legible)
    (hcompleted : ∀ text ∈ r.completedAt, ∃ m, Readable m ∧ text = m.iso)
    (hresume : ∀ text ∈ r.resumeAt, ∃ m, Readable m ∧ text = m.iso) :
    ∃ e, Storable e ∧ r = Row.ofEnrollment e := by
  obtain ⟨lead, hlead, hkept⟩ := h.lead
  obtain ⟨overrides, hoverrides, hkept'⟩ := h.overrides
  obtain ⟨createdAt, hcreated, htext⟩ := h.createdAt
  have hmoment : ∀ {o : Option String}, (∀ text ∈ o, ∃ m, Readable m ∧ text = m.iso) →
      ∃ o' : Option Moment, (∀ m ∈ o', Readable m) ∧ o = o'.map Moment.iso := by
    intro o ho
    cases o with
    | none => exact ⟨none, fun _ hm => (by cases hm), rfl⟩
    | some text =>
      obtain ⟨m, hm, heq⟩ := ho text rfl
      exact ⟨some m, fun _ hm' => (by cases hm'; exact hm), congrArg some heq⟩
  obtain ⟨steps, hsteps, hsteps'⟩ := steps_of_times h.times
  obtain ⟨completedAt, hc, hc'⟩ := hmoment hcompleted
  obtain ⟨resumeAt, hr, hr'⟩ := hmoment hresume
  refine ⟨⟨r.id, r.workflowId, r.source, lead, overrides, r.status, steps, createdAt, completedAt,
    resumeAt⟩, ⟨hlead, hoverrides, hsteps, hcreated, hc, hr⟩, ?_⟩
  unfold Row.ofEnrollment
  rw [← hkept, ← hkept', ← htext, ← hsteps', ← hc', ← hr']

/-- The times of a legible row's steps can be read after further ones. -/
theorem append_times (h : r.Legible) {steps : List Step} (hsteps : ∀ s ∈ steps, Readable s.createdAt) :
    ∀ t ∈ r.steps ++ steps.map StepRow.ofStep, ∃ m, Readable m ∧ t.createdAt = m.iso := by
  intro t ht
  rcases List.mem_append.1 ht with ht | ht
  · exact h.times t ht
  · obtain ⟨s, hs, rfl⟩ := List.mem_map.1 ht
    exact ⟨s.createdAt, hsteps s hs, rfl⟩

/-- Recording a run keeps a row legible, if the times of its steps can be read. -/
theorem recorded (h : r.Legible) {steps : List Step} (hsteps : ∀ s ∈ steps, Readable s.createdAt)
    (status : Status) (completedAt resumeAt : Option Moment) :
    (Enrollment.recorded steps status completedAt resumeAt r).Legible :=
  ⟨h.lead, h.overrides, h.createdAt, h.append_times hsteps⟩

end Row.Legible

end Enrollment
end Cadence
