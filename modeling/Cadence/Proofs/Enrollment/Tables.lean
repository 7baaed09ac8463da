/-
# The two tables hold the rows

`Rows` keeps every enrollment with its steps in one row. The database has a table for the
enrollments and one for their steps, joined by the id and ordered by number. Tables `Mirror` rows if
the heads are those of the rows and the entries of every id are the steps of its row, numbered from
1 on without gaps; an id without a row has no entries, so a row that is made again starts without
the steps it had. Every operation does the same to the tables as to the rows (`Mirrors.create`,
`Mirrors.recordRun`, `Mirrors.setLead`, `Mirrors.delete`), and reading an enrollment from the tables
is reading it from its row (`Mirrors.get`). In particular the numbers of new steps are never taken.

Key definitions: `numbered`, `Rows.stepsOf`, `Mirrors`, `Matches`.
Key theorems: `addSteps_eq`, `Mirrors.create`, `Mirrors.recordRun`, `Mirrors.delete`, `Mirrors.get`.
-/
import Cadence.Enrollment.Tables
import Cadence.Proofs.Enrollment.Stored

namespace Cadence
namespace Enrollment

open Time

/-! ### Numbered steps -/

/-- The entries of steps that are numbered from `first` on. -/
def numbered (id : String) : Nat → List StepRow → List NumberedStep
  | _, [] => []
  | first, s :: rest => ⟨id, first, s⟩ :: numbered id (first + 1) rest

theorem numbered_append (id : String) : ∀ (a b : List StepRow) (first : Nat),
    numbered id first (a ++ b) = numbered id first a ++ numbered id (first + a.length) b
  | [], _, _ => rfl
  | s :: a, b, first => by
    simp only [List.cons_append, numbered, List.length_cons, numbered_append id a b]
    rw [Nat.add_right_comm first 1, ← Nat.add_assoc]

theorem map_numbered (id : String) : ∀ (first : Nat) (steps : List StepRow),
    (numbered id first steps).map (·.step) = steps
  | _, [] => rfl
  | first, s :: steps => by simp [numbered, map_numbered id (first + 1) steps]

theorem mem_numbered {id : String} : ∀ {first : Nat} {steps : List StepRow} {e : NumberedStep},
    e ∈ numbered id first steps →
      e.enrollmentId = id ∧ first ≤ e.number ∧ e.number < first + steps.length
  | _, [], _, h => absurd h List.not_mem_nil
  | first, s :: steps, e, h => by
    rcases List.mem_cons.1 h with rfl | h
    · exact ⟨rfl, Nat.le_refl _, by simp⟩
    · obtain ⟨hid, hfirst, hlast⟩ := mem_numbered h
      rw [List.length_cons]
      exact ⟨hid, by omega, by omega⟩

theorem numbered_sorted (id : String) : ∀ (first : Nat) (steps : List StepRow),
    (numbered id first steps).Pairwise fun a b => a.number ≤ b.number
  | _, [] => .nil
  | first, s :: steps => by
    refine .cons ?_ (numbered_sorted id (first + 1) steps)
    intro e he
    have hbound := (mem_numbered he).2.1
    exact Nat.le_of_succ_le hbound

/-- The greatest number of entries that are numbered on from `last`. -/
theorem foldl_numbered (id : String) : ∀ (steps : List StepRow) (last : Nat),
    (numbered id (last + 1) steps).foldl (fun greatest e => max greatest e.number) last =
      last + steps.length
  | [], _ => rfl
  | s :: steps, last => by
    have hmax : max last (last + 1) = last + 1 := by omega
    simp only [numbered, List.foldl_cons, hmax, foldl_numbered id steps (last + 1),
      List.length_cons]
    omega

/-! ### Heads -/

/-- A row with further steps. -/
def Row.extended (steps : List Step) (r : Row) : Row :=
  r.withSteps (r.steps ++ steps.map StepRow.ofStep)

@[simp]
theorem Row.extended_steps (steps : List Step) (r : Row) :
    (r.extended steps).steps = r.steps ++ steps.map StepRow.ofStep := rfl

@[simp]
theorem Row.head_id (r : Row) : r.head.id = r.id := rfl

@[simp]
theorem Row.withSteps_head (r : Row) : r.head.withSteps r.steps = r := rfl

theorem find?_heads (id : String) : ∀ rows : Rows,
    Rows.find? (rows.map Row.head) id = (rows.find? id).map Row.head
  | [] => rfl
  | r :: rows => by
    have ih := find?_heads id rows
    unfold Rows.find? at ih ⊢
    by_cases hr : r.id = id
    · simp [hr]
    · simp [hr, ih]

/-- Changing a head is changing the row of which it is the head. -/
theorem modify_heads (id : String) {f g : Row → Row} (h : ∀ r, f r.head = (g r).head)
    (rows : Rows) : Rows.modify (rows.map Row.head) id f = (rows.modify id g).map Row.head := by
  unfold Rows.modify
  rw [List.map_map, List.map_map]
  refine List.map_congr_left ?_
  intro r _
  by_cases hr : r.id = id
  · simp [hr, h]
  · simp [hr]

theorem filter_heads (id : String) (rows : Rows) :
    (rows.map Row.head).filter (·.id ≠ id) = (rows.filter (·.id ≠ id)).map Row.head := by
  rw [List.filter_map]
  rfl

/-- Other rows are found as before. -/
theorem find?_modify_of_ne {id id' : String} (h : id' ≠ id) {f : Row → Row}
    (hf : ∀ r, (f r).id = r.id) : ∀ rows : Rows, (rows.modify id f).find? id' = rows.find? id'
  | [] => rfl
  | r :: rows => by
    have ih := find?_modify_of_ne h hf rows
    unfold Rows.modify Rows.find? at ih ⊢
    by_cases hr : r.id = id
    · have hne : r.id ≠ id' := fun heq => h (heq.symm.trans hr)
      simp [hr, ih, hf, Ne.symm h]
    · simp [hr, ih, List.find?_cons]

/-- A new row is changed and no other. -/
theorem modify_append_new {rows : Rows} {r : Row} {f : Row → Row} (h : rows.find? r.id = none) :
    Rows.modify (rows ++ [r]) r.id f = rows ++ [f r] := by
  have hother : rows.map (fun r' => if r'.id = r.id then f r' else r') = rows.map fun r' => r' := by
    refine List.map_congr_left ?_
    intro r' hr'
    have hne : r'.id ≠ r.id := by simpa using List.find?_eq_none.1 h r' hr'
    exact if_neg hne
  unfold Rows.modify
  rw [List.map_append, hother]
  simp

/-- A removed row is not found, and the others are. -/
theorem find?_filter {id id' : String} (rows : Rows) :
    Rows.find? (rows.filter (·.id ≠ id)) id' = if id' = id then none else rows.find? id' := by
  unfold Rows.find?
  rw [List.find?_filter]
  by_cases hid : id' = id
  · rw [if_pos hid, List.find?_eq_none]
    intro r _ hr
    simp [hid] at hr
  · rw [if_neg hid]
    refine congrArg (List.find? · rows) (funext fun r => ?_)
    by_cases hr : r.id = id'
    · simp [hr, hid]
    · simp [hr]

/-! ### Tables that mirror rows -/

/-- The steps of an enrollment; none where there is no such enrollment. -/
def Rows.stepsOf (rows : Rows) (id : String) : List StepRow :=
  ((rows.find? id).map (·.steps)).getD []

/-- The tables of rows: the heads are those of the rows, and the entries of every id are the steps
of its row, numbered from 1 on. -/
structure Mirrors (t : Tables) (rows : Rows) : Prop where
  heads : t.heads = rows.map Row.head
  entries : ∀ id, t.entriesOf id = numbered id 1 (rows.stepsOf id)

/-- Results that are the same fault, or values that are related. -/
def Matches {σ τ : Type} (R : σ → τ → Prop) : Except Fault σ → Except Fault τ → Prop
  | .ok s, .ok t => R s t
  | .error f, .error f' => f = f'
  | _, _ => False

theorem stepsOf_some {rows : Rows} {id : String} {r : Row} (h : rows.find? id = some r) :
    rows.stepsOf id = r.steps := by
  unfold Rows.stepsOf
  rw [h]
  rfl

theorem stepsOf_none {rows : Rows} {id : String} (h : rows.find? id = none) :
    rows.stepsOf id = [] := by
  unfold Rows.stepsOf
  rw [h]
  rfl

/-- One step more: its number is free, and its enrollment is there. -/
theorem addStep_next {id : String} {t : Tables} {old : List StepRow} (s : StepRow)
    (hsome : (t.heads.find? id).isSome = true) (hentries : t.entriesOf id = numbered id 1 old) :
    t.addStep ⟨id, old.length + 1, s⟩ =
      .ok { t with entries := t.entries ++ [⟨id, old.length + 1, s⟩] } := by
  have hnew : (t.entriesOf id).any (·.number = old.length + 1) = false := by
    rw [List.any_eq_false, hentries]
    intro e he
    have hbound := (mem_numbered he).2.2
    simp only [decide_eq_true_eq]
    omega
  unfold Tables.addStep
  simp only [Option.isNone_eq_false_iff.2 hsome, hnew, Bool.false_eq_true, if_false]

/-- Steps are added one after the other. The induction is on the steps, for all tables. -/
theorem foldlM_addStep {id : String} {steps : List Step} : ∀ {t : Tables} {old : List StepRow},
    (t.heads.find? id).isSome = true → t.entriesOf id = numbered id 1 old →
      (steps.zipIdx (old.length + 1)).foldlM
        (fun t p => t.addStep ⟨id, p.2, StepRow.ofStep p.1⟩) t = .ok { t with
          entries := t.entries ++ numbered id (old.length + 1) (steps.map StepRow.ofStep) } := by
  induction steps with
  | nil =>
    intro t old _ _
    simp [numbered, pure, Except.pure]
  | cons s steps ih =>
    intro t old hsome hentries
    have hmore : Tables.entriesOf
        { t with entries := t.entries ++ [⟨id, old.length + 1, StepRow.ofStep s⟩] } id =
          numbered id 1 (old ++ [StepRow.ofStep s]) := by
      unfold Tables.entriesOf at hentries ⊢
      rw [List.filter_append, hentries, numbered_append, Nat.add_comm 1]
      simp [numbered]
    have hrest := ih (t := { t with
      entries := t.entries ++ [⟨id, old.length + 1, StepRow.ofStep s⟩] }) hsome hmore
    rw [List.length_append, List.length_singleton] at hrest
    simp only [List.zipIdx_cons, List.foldlM_cons, addStep_next (StepRow.ofStep s) hsome hentries,
      bind, Except.bind, List.map_cons, numbered]
    rw [hrest, List.append_assoc]
    rfl

/-- **New steps are added behind the others.** Their numbers are free, and their enrollment is
there. -/
theorem addSteps_eq {id : String} {steps : List Step} {t : Tables} {old : List StepRow}
    (hsome : (t.heads.find? id).isSome = true) (hentries : t.entriesOf id = numbered id 1 old) :
    t.addSteps id steps = .ok { t with
      entries := t.entries ++ numbered id (old.length + 1) (steps.map StepRow.ofStep) } := by
  have hlast : t.lastNumber id = old.length := by
    unfold Tables.lastNumber
    rw [hentries, foldl_numbered id old 0, Nat.zero_add]
  unfold Tables.addSteps
  rw [hlast]
  exact foldlM_addStep hsome hentries

namespace Mirrors

variable {t : Tables} {rows : Rows}

theorem empty : Mirrors .empty [] := ⟨rfl, fun _ => rfl⟩

theorem find? (h : Mirrors t rows) (id : String) :
    t.heads.find? id = (rows.find? id).map Row.head := by
  rw [h.heads, find?_heads]

theorem isSome (h : Mirrors t rows) (id : String) :
    (t.heads.find? id).isSome = (rows.find? id).isSome := by
  rw [h.find?, Option.isSome_map]

theorem stepsOf (h : Mirrors t rows) (id : String) : t.stepsOf id = rows.stepsOf id := by
  unfold Tables.stepsOf
  have hsorted : ((numbered id 1 (rows.stepsOf id)).Pairwise fun a b =>
      decide (a.number ≤ b.number) = true) :=
    (numbered_sorted id 1 _).imp fun hle => decide_eq_true hle
  rw [h.entries id, List.mergeSort_of_pairwise hsorted, map_numbered]

/-- **Reading the tables is reading the row.** -/
theorem get (h : Mirrors t rows) (id : String) : t.get id = rows.get id := by
  unfold Tables.get Rows.get
  rw [h.find?, h.stepsOf]
  cases hr : rows.find? id with
  | none => rfl
  | some r =>
    rw [stepsOf_some hr]
    rfl

/-- What is set in a head and not in the steps. -/
theorem modify (h : Mirrors t rows) (id : String) {f : Row → Row}
    (hf : ∀ r, f r.head = (f r).head ∧ (f r).id = r.id ∧ (f r).steps = r.steps) :
    Mirrors { t with heads := t.heads.modify id f } (rows.modify id f) := by
  refine ⟨?_, ?_⟩
  · rw [← modify_heads id fun r => (hf r).1, h.heads]
  · intro id'
    refine (h.entries id').trans (congrArg _ ?_)
    unfold Rows.stepsOf
    by_cases hid : id' = id
    · rw [hid, find?_modify id fun r => (hf r).2.1, Option.map_map]
      exact congrArg (·.getD []) (Option.map_congr fun r _ => ((hf r).2.2).symm)
    · rw [find?_modify_of_ne hid fun r => (hf r).2.1]

/-- Steps are added to the entries of one enrollment and to its row. -/
theorem addSteps (h : Mirrors t rows) {id : String} {r : Row} (hr : rows.find? id = some r)
    (steps : List Step) : Matches Mirrors (t.addSteps id steps)
      (.ok (rows.modify id (Row.extended steps))) := by
  have hsome : (t.heads.find? id).isSome = true := by
    rw [h.isSome, hr]
    rfl
  have hentries := h.entries id
  rw [stepsOf_some hr] at hentries
  rw [addSteps_eq hsome hentries]
  refine ⟨?_, ?_⟩
  · have hheads := modify_heads id (f := fun r => r)
      (g := Row.extended steps) (fun _ => rfl) rows
    rw [modify_self] at hheads
    exact h.heads.trans hheads
  · intro id'
    have hold := h.entries id'
    unfold Tables.entriesOf at hold ⊢
    rw [List.filter_append, hold]
    by_cases hid : id' = id
    · subst hid
      have hfound := find?_modify id' (f := Row.extended steps) (fun _ => rfl) rows
      rw [hr] at hfound
      rw [stepsOf_some hr, stepsOf_some hfound, Row.extended_steps, numbered_append, Nat.add_comm 1]
      refine congrArg _ (List.filter_eq_self.2 ?_)
      intro e he
      exact decide_eq_true (mem_numbered he).1
    · have hnone : (numbered id (r.steps.length + 1) (steps.map StepRow.ofStep)).filter
          (·.enrollmentId = id') = [] := by
        rw [List.filter_eq_nil_iff]
        intro e he heq
        exact hid ((of_decide_eq_true heq).symm.trans (mem_numbered he).1)
      have hsame := find?_modify_of_ne hid
        (f := Row.extended steps) (fun _ => rfl) rows
      unfold Rows.stepsOf
      rw [hnone, List.append_nil, hsame]

/-- **Making an enrollment** does to the tables what it does to the rows. -/
theorem create (h : Mirrors t rows) (e : Enrollment) : Matches Mirrors (t.create e) (rows.create e) := by
  unfold Tables.create Rows.create
  rw [h.isSome]
  cases hr : rows.find? e.id with
  | some r => exact rfl
  | none =>
    -- the tables with the head alone mirror the rows with a row that has no steps yet
    have hhead : Mirrors { t with heads := t.heads ++ [(Row.ofEnrollment e).head] }
        (rows ++ [(Row.ofEnrollment e).head]) := by
      refine ⟨?_, ?_⟩
      · rw [h.heads, List.map_append]
        rfl
      · intro id
        refine (h.entries id).trans (congrArg _ ?_)
        unfold Rows.stepsOf Rows.find?
        rw [List.find?_append]
        cases hfind : List.find? (fun r => decide (r.id = id)) rows with
        | some r => rfl
        | none =>
          rw [Option.none_or, List.find?_singleton]
          split <;> rfl
    have hfound : Rows.find? (rows ++ [(Row.ofEnrollment e).head]) e.id =
        some (Row.ofEnrollment e).head := find?_append_new (r := (Row.ofEnrollment e).head) hr
    have hadded := hhead.addSteps hfound e.steps
    have hnew := modify_append_new (r := (Row.ofEnrollment e).head)
      (f := Row.extended e.steps) hr
    rw [show e.id = (Row.ofEnrollment e).head.id from rfl, hnew] at hadded
    exact hadded

/-- **Recording a run** does to the tables what it does to the rows. -/
theorem recordRun (h : Mirrors t rows) (id : String) (steps : List Step) (status : String)
    (completedAt resumeAt : Option Moment) :
    Matches Mirrors (t.recordRun id steps status completedAt resumeAt)
      (rows.recordRun id steps status completedAt resumeAt) := by
  unfold Tables.recordRun Rows.recordRun
  cases hr : rows.find? id with
  | none =>
    have hnone : (t.heads.find? id).isNone = true := by
      rw [h.find?, hr]
      rfl
    rw [if_pos hnone]
    exact rfl
  | some r =>
    have hsome : (t.heads.find? id).isNone = false := by
      rw [h.find?, hr]
      rfl
    rw [if_neg (by rw [hsome]; exact Bool.false_ne_true)]
    cases Status.names.lookup status with
    | none => exact rfl
    | some status =>
      -- first what the head keeps of the run, then its steps
      have hset := h.modify id (f := Row.ended status completedAt resumeAt)
        fun _ => ⟨rfl, rfl, rfl⟩
      have hfound := find?_modify id (f := Row.ended status completedAt resumeAt) (fun _ => rfl) rows
      rw [hr] at hfound
      have hadded := hset.addSteps hfound steps
      rw [modify_modify (f := Row.ended status completedAt resumeAt) fun _ => rfl] at hadded
      exact hadded

/-- **Setting a lead** does to the tables what it does to the rows. -/
theorem setLead (h : Mirrors t rows) (id : String) (lead : Lead) :
    (t.setLead id lead).1 = (rows.setLead id lead).1 ∧
      Mirrors (t.setLead id lead).2 (rows.setLead id lead).2 :=
  ⟨h.isSome id, h.modify id fun _ => ⟨rfl, rfl, rfl⟩⟩

/-- **Removing an enrollment** does to the tables what it does to the rows. -/
theorem delete (h : Mirrors t rows) (id : String) :
    (t.delete id).1 = (rows.delete id).1 ∧ Mirrors (t.delete id).2 (rows.delete id).2 := by
  refine ⟨h.isSome id, ?_, ?_⟩
  · unfold Tables.delete Rows.delete
    rw [h.heads, filter_heads]
  · intro id'
    have hold := h.entries id'
    unfold Tables.entriesOf at hold
    unfold Tables.delete Rows.delete Tables.entriesOf
    by_cases hid : id' = id
    · -- the entries of a removed enrollment go with it
      have hnone : (t.entries.filter (·.enrollmentId ≠ id)).filter (·.enrollmentId = id') = [] := by
        rw [List.filter_filter, List.filter_eq_nil_iff]
        intro e _ he
        simp [hid] at he
      rw [hnone, stepsOf_none ((find?_filter rows).trans (if_pos hid))]
      rfl
    · have hsame : (t.entries.filter (·.enrollmentId ≠ id)).filter (·.enrollmentId = id') =
          t.entries.filter (·.enrollmentId = id') := by
        rw [List.filter_filter]
        refine List.filter_congr ?_
        intro e _
        by_cases he : e.enrollmentId = id'
        · simp [he, hid]
        · simp [he]
      unfold Rows.stepsOf at hold ⊢
      rw [hsame, hold, find?_filter, if_neg hid]

end Mirrors
end Enrollment
end Cadence
