/-
# Lists in the order of time

The store orders times by their texts. In universal time that is the order of the instants
(`iso_lt`), whether a text shows fractions of a second or not. All enrollments are made at times in
universal time, so the newest of a workflow come first in its list (`newest_ordered`). Due times are
converted to universal time before they are stored, but for the one that is made up where a reply
pauses a run and does not say until when: that is the time of the clock as it is. On a clock with
another offset such a due time stands where its text belongs and not its instant
(`converted_comes_first`); without such replies, or with a clock in universal time, the list of due
times is in order (`listed_in_time_order`).

A list is read only as far as its rows can be. The times that a run takes from the clock, of
completion and of the pause that is made up, keep the clock's offset, and an offset with seconds
cannot be read back. Nor can the store take a limit of 64 bits.

Key definitions: `Enrollment.Rows.newest`, `Filed`, `Agenda`.
Key theorems: `Enrollment.ofWorkflow_eq`, `Touched.filed`, `carry_filed`, `newest_ordered`,
`Dated.agenda`, `listed_in_time_order`.
-/
import Cadence.Proofs.Service.Polled
import Cadence.Proofs.Service.Standing

namespace Cadence

open Time

namespace Enrollment

/-! ### The list of a workflow -/

/-- The rows of a workflow, those made last first by the texts of their times. -/
def Rows.newest (rows : Rows) (workflowId : String) : Rows :=
  (rows.filter (·.workflowId = workflowId)).mergeSort fun a b => b.createdAt ≤ a.createdAt

section
variable {rows : Rows} {wid : String}

theorem newest_perm : (rows.newest wid).Perm (rows.filter (·.workflowId = wid)) :=
  List.mergeSort_perm _ _

theorem newest_sorted : (rows.newest wid).Pairwise fun a b => b.createdAt ≤ a.createdAt := by
  have hsorted : (rows.newest wid).Pairwise
      fun a b => decide (b.createdAt ≤ a.createdAt) = true := by
    refine List.pairwise_mergeSort ?_ ?_ _
    · intro a b c hab hbc
      rw [decide_eq_true_eq] at hab hbc ⊢
      exact String.le_trans hbc hab
    · intro a b
      rw [Bool.or_eq_true, decide_eq_true_eq, decide_eq_true_eq]
      exact String.le_total b.createdAt a.createdAt
  exact hsorted.imp of_decide_eq_true

/-- A list with a limit is read from the first rows, unless the limit is too great for the store. -/
theorem ofWorkflow_eq {limit : Int} (h0 : 0 ≤ limit) : rows.ofWorkflow wid limit =
    if Decode.wordHalf ≤ limit then .error .overflow
    else ((rows.newest wid).take limit.toNat).mapM Row.read := by
  have hlow : -Decode.wordHalf ≤ limit := Int.le_trans (by decide) h0
  unfold Rows.ofWorkflow Rows.fitsLimit
  by_cases hhigh : Decode.wordHalf ≤ limit
  · rw [if_pos hhigh, if_pos (by simp [hhigh])]
  · rw [if_neg hhigh, if_neg (by simp [hlow, Int.not_le.1 hhigh])]
    dsimp only
    rw [if_neg (Int.not_lt.2 h0)]
    rfl

end

end Enrollment

namespace Service

open Enrollment (Row Rows Readable)

variable {σ : Type}

/-! ### What rows say about times -/

/-- The invariant of a row, where the clock shows times of some kind: the row can be read except
perhaps for its time of completion and its due time, it was made at a time in universal time, and
the other two times are of this kind. -/
structure Filed (T : Moment → Prop) (r : Row) : Prop where
  legible : r.Legible
  createdAt : ∃ m, Universal m ∧ r.createdAt = m.iso
  completedAt : ∀ text ∈ r.completedAt, ∃ m, T m ∧ text = m.iso
  resumeAt : ∀ text ∈ r.resumeAt, ∃ m, T m ∧ text = m.iso

section
variable {P : Reply → Prop} {T : Moment → Prop} {c : Config} {k : Collaborators σ}
  {i : Invocation σ} {r : Row} {e : Enrollment}

theorem Filed.refreshed (h : Filed T r) (he : e.lead.IsWhole) (news : Option Lead) :
    Filed T (refreshed news e r) := by
  have hlegible := legible_refreshed h.legible he news
  cases news with
  | none => exact h
  | some news => exact ⟨hlegible, h.createdAt, h.completedAt, h.resumeAt⟩

/-- Recording times of the kind, and steps whose times can be read, keeps the invariant. -/
theorem Filed.recorded (h : Filed T r) {steps : List Step} {status : Enrollment.Status}
    {completedAt resumeAt : Option Moment} (hsteps : ∀ s ∈ steps, Readable s.createdAt)
    (hcompleted : ∀ m ∈ completedAt, T m) (hresume : ∀ m ∈ resumeAt, T m) :
    Filed T (Enrollment.recorded steps status completedAt resumeAt r) := by
  have hkept : ∀ {o : Option Moment}, (∀ m ∈ o, T m) →
      ∀ text ∈ o.map Moment.iso, ∃ m, T m ∧ text = m.iso := by
    intro o ho text htext
    obtain ⟨m, hm, rfl⟩ := Option.map_eq_some_iff.1 htext
    exact ⟨m, ho m hm, rfl⟩
  exact ⟨h.legible.recorded hsteps _ _ _, h.createdAt, hkept hcompleted, hkept hresume⟩

/-- A run leaves the row that it touches with the invariant. -/
theorem Touched.filed (hT : ∀ m, Universal m → T m) (hvalid : ∀ m, T m → m.IsValid)
    (hclock : Aware i.before.clock) (hnow : T i.before.clock)
    (hnews : ∀ lead ∈ i.news, lead.IsWhole) (hf : Found i.before i.id i.news r e)
    (h : Filed T r) {r' : Row} (ht : Touched P c k i r e r') : Filed T r' := by
  have hrefreshed := h.refreshed (hf.legible h.legible hnews).1 i.news
  have hclocked : ∀ m ∈ some i.before.clock, T m := fun m hm => by cases hm; exact hnow
  cases ht with
  | told => exact hrefreshed
  | flawed => exact hrefreshed.recorded nofun hclocked nofun
  | complete =>
    refine hrefreshed.recorded nofun ?_ nofun
    obtain ⟨e', hread, rfl⟩ := hf.read
    obtain ⟨-, hkept⟩ := Enrollment.read_times_of_iso hvalid h.completedAt
      (Enrollment.read_eq_ok.1 hread).completedAt
    intro m hm
    cases hm
    rw [informed_completedAt]
    cases hat : e'.completedAt with
    | none => exact hnow
    | some m => exact hkept m hat
  | recorded hready hcomes hv =>
    refine hrefreshed.recorded (hclock.newSteps hcomes) ?_ ?_
    · cases hv with
      | failed => exact hclocked
      | paused => exact nofun
      | succeeded => exact hclocked
    · cases hv with
      | failed => exact nofun
      | succeeded => exact nofun
      | paused _ hpaused hdue =>
        intro m hm
        cases hm
        rcases paused_due hcomes hpaused hdue with hu | ⟨-, rfl⟩
        · exact hT _ hu
        · exact hnow

/-- **Every command keeps the invariant**, if the clock shows such times and knows its offset. -/
theorem Command.filed (hT : ∀ m, Universal m → T m) (hvalid : ∀ m, T m → m.IsValid)
    (cmd : Command) (hcmd : cmd.Proper fun m => Aware m ∧ T m) {s : State σ}
    (h : AllRows (fun m => Aware m ∧ T m) (Filed T) s) :
    AllRows (fun m => Aware m ∧ T m) (Filed T) (cmd.perform c k s) := by
  refine cmd.allRows k.reply_any ?_ ?_ ?_ h
  · rintro s₁ workflowId source lead overrides w rfl ⟨hclock, -⟩
    obtain ⟨hmade, hzero⟩ := Decode.universal_spec hclock.valid
      (by rw [assumeUtc_of_known hclock.known]; exact hclock.universal)
    exact ⟨⟨⟨_, hcmd.1.normalized, rfl⟩, ⟨_, hcmd.2, rfl⟩, ⟨_, hclock.stamp, rfl⟩, nofun⟩,
      ⟨_, ⟨hmade, hzero⟩, rfl⟩, nofun, nofun⟩
  · intro i hfiles hclock hnews r e r' hf hr ht
    refine ht.filed hT hvalid hclock.1 hclock.2 ?_ hf hr
    intro lead hlead
    obtain ⟨id, ignore, rfl⟩ := hnews lead hlead
    exact hcmd lead rfl
  · rintro now rfl
    exact hcmd

/-- Whatever is done keeps the invariant. -/
theorem carry_filed (hT : ∀ m, Universal m → T m) (hvalid : ∀ m, T m → m.IsValid)
    {cmds : List Command} (hcmds : ∀ cmd ∈ cmds, cmd.Proper fun m => Aware m ∧ T m) {s : State σ}
    (h : AllRows (fun m => Aware m ∧ T m) (Filed T) s) :
    AllRows (fun m => Aware m ∧ T m) (Filed T) (carry c k cmds s) :=
  carry_allRows (F := fun _ => True) (fun _ => trivial)
    (fun cmd hmem _ _ hs => cmd.filed hT hvalid (hcmds cmd hmem) hs) h

end

/-! ### The lists -/

/-- The list of due times can be read and has each row that is due at some time once, and those who
are due at a moment are those whose due time in the list is not behind it, in the order of the
list. -/
structure Agenda (rows : Rows) (now : Moment) (jobs : List (String × Moment)) : Prop where
  listed : rows.scheduled = .ok jobs
  once : (jobs.map (·.1)).Nodup
  mem_iff : ∀ id m, (id, m) ∈ jobs ↔
    ∃ r ∈ rows, r.id = id ∧ ∃ text ∈ r.resumeAt, Moment.ofIso? text = some m
  compared : ∀ job ∈ jobs, (job.2.le? now).isSome = true
  due : rows.dueAt now = .ok ((jobs.filter fun job => job.2.le? now = some true).map (·.1))

/-- One row was made no later than another, as far as the texts of their times can be read. -/
def NoLater (a b : Row) : Prop := ∃ m m', Moment.ofIso? a.createdAt = some m ∧
  Moment.ofIso? b.createdAt = some m' ∧ m.le? m' = some true

section
variable {rows : Rows} {wid : String}

/-- Of two times in universal time the one with the earlier text is no later. -/
theorem le?_of_iso_le {m m' : Moment} (hm : Universal m) (hm' : Universal m') (h : m.iso ≤ m'.iso) :
    m.le? m' = some true :=
  le?_of_universal hm.zero hm'.zero (reading_le_of_iso_le hm.valid hm'.valid hm.zero hm'.zero h)

/-- **Enrollments made last come first** in the list of a workflow. -/
theorem newest_ordered (hrows : ∀ r ∈ rows, ∃ m, Universal m ∧ r.createdAt = m.iso) :
    (rows.newest wid).Pairwise fun a b => NoLater b a := by
  have hread : ∀ {m}, Universal m → Moment.ofIso? m.iso = some m := fun hm => by
    rw [ofIso?_iso hm.valid, kept_of_utc hm.zero]
  have hmem : ∀ r ∈ rows.newest wid, r ∈ rows := fun r hr =>
    List.mem_of_mem_filter (Enrollment.newest_perm.mem_iff.1 hr)
  refine List.Pairwise.imp_of_mem (fun {a b} ha hb hle => ?_) Enrollment.newest_sorted
  obtain ⟨m, hm, htext⟩ := hrows a (hmem a ha)
  obtain ⟨m', hm', htext'⟩ := hrows b (hmem b hb)
  rw [htext, htext'] at hle
  exact ⟨m', m, by rw [htext', hread hm'], by rw [htext, hread hm], le?_of_iso_le hm' hm hle⟩

/-- The list of a workflow whose rows can be read is made of the enrollments in its rows. -/
theorem ofWorkflow_of_read {es : List Enrollment}
    (hes : List.Forall₂ (fun r e => r.read = .ok e) (rows.newest wid) es) {limit : Int}
    (h0 : 0 ≤ limit) (hlimit : limit < Decode.wordHalf) :
    rows.ofWorkflow wid limit = .ok (es.take limit.toNat) := by
  rw [Enrollment.ofWorkflow_eq h0, if_neg (Int.not_le.2 hlimit)]
  exact mapM_eq_ok.2 (List.forall₂_take _ hes)

/-- What is filed at times that can be read can be read. -/
theorem Filed.read {r : Row} (h : Filed Readable r) :
    ∃ e, r.read = .ok e ∧ Moment.ofIso? r.createdAt = some e.createdAt := by
  obtain ⟨e, he, hrow⟩ := h.legible.storable h.completedAt h.resumeAt
  obtain ⟨m, hm, htext⟩ := h.createdAt
  have hread : r.read = .ok e := by rw [hrow, Enrollment.read_ofEnrollment he]
  have htime := (Enrollment.read_eq_ok.1 hread).createdAt
  rw [htext] at htime
  refine ⟨e, hread, ?_⟩
  rw [Enrollment.readTime_of_iso hm.valid htime, htext, ofIso?_iso hm.valid, kept_of_utc hm.zero]

/-- Enrollments are in the order of their rows. -/
theorem pairwise_of_read {newest : Rows} {es : List Enrollment}
    (hes : List.Forall₂ (fun r e => r.read = .ok e ∧ Moment.ofIso? r.createdAt = some e.createdAt)
      newest es) (h : newest.Pairwise fun a b => NoLater b a) :
    es.Pairwise fun a b => b.createdAt.le? a.createdAt = some true := by
  induction hes with
  | nil => exact .nil
  | @cons r e newest es hone hrest ih =>
    obtain ⟨hfirst, h⟩ := List.pairwise_cons.1 h
    refine List.pairwise_cons.2 ⟨fun e' he' => ?_, ih h⟩
    obtain ⟨r', hr', -, hread'⟩ := exists_of_mem_right hrest he'
    obtain ⟨m', m, hm', hm, hle⟩ := hfirst r' hr'
    rw [hone.2] at hm
    rw [hread'] at hm'
    obtain rfl := Option.some.inj hm
    obtain rfl := Option.some.inj hm'
    exact hle

end

section
variable {c : Config} {k : Collaborators σ}

/-- If all due times can be compared, the list of them has all that are due. -/
theorem Dated.agenda {s : State σ} (h : Dated Known s) {now : Moment}
    (hnow : now.offset.isSome = true) : ∃ jobs, Agenda s.rows now jobs := by
  obtain ⟨jobs, hjobs, -⟩ := h.scheduled fun _ hm => hm
  obtain ⟨hcompared, hdue⟩ := h.dueAt hjobs hnow
  refine ⟨jobs, hjobs, ?_, fun id m => ⟨Enrollment.mem_scheduled hjobs, ?_⟩, hcompared, hdue⟩
  · rw [Enrollment.scheduled_ids hjobs]
    exact Enrollment.scheduledTexts_nodup h.ids
  · rintro ⟨r, hr, rfl, text, htext, hread⟩
    obtain ⟨⟨id, m'⟩, hjob, rfl, hread'⟩ := Enrollment.scheduled_of_mem hjobs hr htext
    rw [hread] at hread'
    rwa [Option.some.inj hread']

/-- The enrollments of a workflow are listed in order, those made last first. -/
theorem newest_in_time_order {s : State σ} (hrows : s.rows = []) (hclock : Aware s.clock)
    {cmds : List Command} (hcmds : ∀ cmd ∈ cmds, cmd.Proper Aware) (wid : String) :
    let rows := (carry c k cmds s).rows
    ((rows.newest wid).Pairwise fun a b => NoLater b a) ∧
      (Decode.WholeMinutes s.clock ∧ (∀ cmd ∈ cmds, cmd.Sets Decode.WholeMinutes) →
        ∃ es : List Enrollment, List.Forall₂ (fun r e => r.read = .ok e) (rows.newest wid) es ∧
          (es.Pairwise fun a b => b.createdAt.le? a.createdAt = some true) ∧
          ∀ limit, 0 ≤ limit → limit < Decode.wordHalf →
            rows.ofWorkflow wid limit = .ok (es.take limit.toNat)) := by
  intro rows
  have hordered : (rows.newest wid).Pairwise fun a b => NoLater b a := by
    have hfiled : AllRows _ (Filed Moment.IsValid) (carry c k cmds s) :=
      carry_filed (fun _ hm => hm.valid) (fun _ => id)
        (fun cmd hcmd => (hcmds cmd hcmd).imp fun _ hm => ⟨hm, hm.valid⟩)
        (.of_empty ⟨hclock, hclock.valid⟩ hrows)
    exact newest_ordered fun r hr => (hfiled.rows r hr).createdAt
  refine ⟨hordered, fun ⟨hminutes, hsets⟩ => ?_⟩
  have hfiled : AllRows _ (Filed Readable) (carry c k cmds s) :=
    carry_filed (fun _ hm => Enrollment.readable_of_utc hm.valid hm.zero) (fun _ hm => hm.valid)
      (fun cmd hcmd => ((hcmds cmd hcmd).restrict (hsets cmd hcmd)).imp fun _ hm =>
        ⟨hm.1, hm.1.valid, hm.2⟩)
      (.of_empty ⟨hclock, hclock.valid, hminutes⟩ hrows)
  obtain ⟨es, hes⟩ := exists_forall₂ (l := rows.newest wid) fun r hr =>
    (hfiled.rows r (List.mem_of_mem_filter (Enrollment.newest_perm.mem_iff.1 hr))).read
  have hread : List.Forall₂ (fun r e => r.read = .ok e) (rows.newest wid) es :=
    hes.imp fun _ _ hone => hone.1
  exact ⟨es, hread, pairwise_of_read hes hordered, fun limit => ofWorkflow_of_read hread⟩

/-- **Lists are in the order of time.** After whatever was done with a service that had no
enrollments, on a clock that knows its offset:

* the list of due times has all that are due, and tells who is due at a moment whose offset is
  known; it is in the order of the due times, if replies that claim a pause say until when or the
  clock only ever showed universal time;
* the list of a workflow with a limit is read from the first of its rows, unless the limit is too
  great for the store. On a clock whose times universal time can show these rows are in order, those
  made last first; and the list can be read if the offsets of the clock are whole minutes. -/
theorem listed_in_time_order {s : State σ} (hrows : s.rows = []) (hclock : Known s.clock)
    {cmds : List Command} (hcmds : ∀ cmd ∈ cmds, cmd.Sets Known) {now : Moment}
    (hnow : now.offset.isSome = true) (wid : String) :
    let rows := (carry c k cmds s).rows
    (∃ jobs, Agenda rows now jobs ∧
      (k.Reply Reply.Definite ∨ Universal s.clock ∧ (∀ cmd ∈ cmds, cmd.Sets Universal) →
        jobs.Pairwise fun a b => a.2.le? b.2 = some true)) ∧
    ∃ newest : Rows, newest.Perm (rows.filter (·.workflowId = wid)) ∧
      (∀ limit, 0 ≤ limit → rows.ofWorkflow wid limit =
        if Decode.wordHalf ≤ limit then .error .overflow
        else (newest.take limit.toNat).mapM Row.read) ∧
      (Aware s.clock ∧ (∀ cmd ∈ cmds, cmd.Proper Aware) →
        (newest.Pairwise fun a b => NoLater b a) ∧
        (Decode.WholeMinutes s.clock ∧ (∀ cmd ∈ cmds, cmd.Sets Decode.WholeMinutes) →
          ∃ es : List Enrollment, List.Forall₂ (fun r e => r.read = .ok e) newest es ∧
            (es.Pairwise fun a b => b.createdAt.le? a.createdAt = some true) ∧
            ∀ limit, 0 ≤ limit → limit < Decode.wordHalf →
              rows.ofWorkflow wid limit = .ok (es.take limit.toNat))) := by
  intro rows
  obtain ⟨jobs, hagenda⟩ := (carry_known (c := c) (k := k) hrows hclock hcmds).agenda hnow
  refine ⟨⟨jobs, hagenda, fun hkind => (carry_universal hrows hkind).ordered hagenda.listed⟩,
    rows.newest wid, Enrollment.newest_perm, fun _ => Enrollment.ofWorkflow_eq, ?_⟩
  rintro ⟨haware, hproper⟩
  exact newest_in_time_order hrows haware hproper wid

end

/-! ### Two who wait -/

namespace Sample

theorem proper_polled : ∀ cmd ∈ polled, cmd.Proper Aware := by
  intro cmd hcmd
  simp only [polled, List.mem_cons, List.not_mem_nil, or_false] at hcmd
  rcases hcmd with rfl | rfl | rfl
  · exact ⟨whole, .none, .none⟩
  · exact ⟨whole, .none, .none⟩
  · trivial

/-- A workflow with an hour's wait. -/
def rest : Workflow.File :=
  ⟨.home, "rest-v1.json", .obj [("id", .str "rest"), ("name", .str "Rest"),
    ("definition", Workflow.Definition.toJson
      ⟨[⟨"start", "manual-trigger", .origin, []⟩,
        ⟨"rest", "wait", .origin, [("amount", .int 1), ("unit", .str "hours")]⟩],
        [⟨"", "start", "rest"⟩], ⟨none⟩⟩)]⟩

/-- A service whose clock is five hours ahead of universal time. -/
def ahead : State Unit :=
  { State.fresh ⟨63870000000 * second, some (18000 * second)⟩ () with files := [file, rest] }

/-- Collaborators that claim to pause each run, and do not say until when. -/
def stalling : Collaborators Unit :=
  ⟨fun _ w => (.returned (.obj [("paused", .bool true)]), w), true⟩

/-- Somebody is written to, which pauses the run at once, and somebody rests. -/
def listed : List Command :=
  [.operate (.enroll "flow" lead Enrollment.trialSource .none),
    .operate (.enroll "rest" lead Enrollment.trialSource .none)]

theorem scheduledTexts_listed : (carry config stalling listed ahead).rows.scheduledTexts =
    [("enrollment-2", "2024-12-16T22:40:00+00:00"),
      ("enrollment-1", "2024-12-17T02:40:00+05:00")] := by
  have hrows : ((carry config stalling listed ahead).rows.filterMap fun r =>
      r.resumeAt.map (r.id, ·)) = [("enrollment-1", "2024-12-17T02:40:00+05:00"),
        ("enrollment-2", "2024-12-16T22:40:00+00:00")] := by
    decide +kernel
  have hlater : ¬ "2024-12-17T02:40:00+05:00" ≤ "2024-12-16T22:40:00+00:00" := by decide
  unfold Enrollment.Rows.scheduledTexts
  rw [hrows]
  simp [List.mergeSort, hlater]

end Sample

/-- The sample's lists, of those who are due and of one workflow, are in order. -/
theorem listed_in_time_order_sample :
    let rows := (carry Sample.config Sample.collaborators Sample.polled Sample.twins).rows
    (∃ jobs : List (String × Moment), rows.scheduled = .ok jobs ∧
      (jobs.filter fun job => job.2.le? Sample.afterwards = some true).map (·.1) =
        ["enrollment-1", "enrollment-2"] ∧
      jobs.Pairwise fun a b => a.2.le? b.2 = some true) ∧
    ∃ es : List Enrollment, rows.ofWorkflow "twin" 100 = .ok es ∧
      es.Pairwise fun a b => b.createdAt.le? a.createdAt = some true := by
  intro rows
  have hminutes : Decode.WholeMinutes Sample.twins.clock := by
    intro o ho
    cases ho
    decide
  obtain ⟨⟨jobs, hagenda, hordered⟩, newest, -, -, hnewest⟩ :=
    listed_in_time_order (c := Sample.config) (k := Sample.collaborators) (s := Sample.twins) rfl
      Sample.known_clock Sample.sets_polled Sample.known_afterwards.known "twin"
  obtain ⟨-, hread⟩ :=
    hnewest ⟨aware_of_utc (by decide) (by decide), Sample.proper_polled⟩
  obtain ⟨es, -, hlatest, hlimit⟩ := hread ⟨hminutes, Sample.sets_polled⟩
  refine ⟨⟨jobs, hagenda.listed, ?_, hordered ?_⟩, es.take 100,
    hlimit 100 (by decide) (by decide), ?_⟩
  · have hdue := hagenda.due
    rw [Sample.due_polled] at hdue
    exact (Except.ok.inj hdue).symm
  · exact Or.inl fun d w => (Sample.collaborators_plain d w).definite
  · exact hlatest.sublist (List.take_sublist _ _)

/-- Where the clock is ahead of universal time, somebody who is due later can be listed first: the
other's due time is that of the clock as it was. -/
theorem converted_comes_first :
    ∃ early late : Moment,
      (carry Sample.config Sample.stalling Sample.listed Sample.ahead).rows.scheduled =
        .ok [("enrollment-2", late), ("enrollment-1", early)] ∧
      early.le? late = some true ∧ late.le? early = some false := by
  refine ⟨⟨63870000000 * second, some (18000 * second)⟩, ⟨63869985600 * second, some 0⟩, ?_,
    by decide, by decide⟩
  rw [Enrollment.scheduled_eq_ok, Sample.scheduledTexts_listed]
  exact .cons ⟨rfl, by decide +kernel⟩ (.cons ⟨rfl, by decide +kernel⟩ .nil)

end Service
end Cadence
