/-
# Who a poll serves

A poll is to wake everybody who is due. All due times in the store can be read and compared with the
time of the poll, so those who are due are found; they are woken one after the other, in the order
of their due times (`wakeDue_attempts`). But the first one that goes wrong ends the poll: those
behind it are not attempted (`Invocation.Breaks`, `firings_all`). A poll serves everybody exactly if
nobody goes wrong but perhaps the last.

The order is that of the texts of due times, which is that of the instants if the texts are in
universal time. They are, except where a collaborator's reply pauses a run without a due time: then
the time of the clock is stored as it is (`paused_due`).

Key definitions: `Known`, `Dated`, `Invocation.Breaks`.
Key theorems: `Invocation.dated`, `carry_known`, `carry_universal`, `firings_all`,
`wakeDue_attempts`.
-/
import Cadence.Proofs.Enrollment.Due
import Cadence.Proofs.Run.Reported
import Cadence.Proofs.Run.Sent
import Cadence.Proofs.Service.Command
import Cadence.Proofs.Service.Shape
import Cadence.Proofs.Time.Order

namespace Cadence
namespace Service

open Time
open Enrollment (Row Rows recorded)

variable {σ : Type}

/-! ### Due times that are stored -/

/-- A time of a clock that knows its offset. -/
structure Known (m : Moment) : Prop where
  valid : m.IsValid
  known : m.offset.isSome = true

/-- A time of a clock in universal time. -/
structure Universal (m : Moment) : Prop where
  valid : m.IsValid
  zero : m.offset = some 0

theorem Universal.known {m : Moment} (h : Universal m) : Known m := ⟨h.valid, by rw [h.zero]; rfl⟩

/-- The invariant: all due times are texts of times of some kind, and rows have distinct ids. -/
structure Dated (T : Moment → Prop) (s : State σ) : Prop where
  ids : (s.rows.map (·.id)).Nodup
  due : ∀ r ∈ s.rows, ∀ text ∈ r.resumeAt, ∃ m, T m ∧ text = m.iso

theorem Dated.of_empty {T : Moment → Prop} {s : State σ} (hrows : s.rows = []) : Dated T s := by
  refine ⟨?_, ?_⟩ <;> rw [hrows]
  · exact List.nodup_nil
  · exact fun r hr => absurd hr List.not_mem_nil

/-- A due time that a step tells was read from a text. -/
theorem due?_isValid {s : Step} {m : Moment} (h : s.due? = .ok (some (.at m))) : m.IsValid := by
  unfold Step.due? at h
  split at h
  · split at h
    · cases h
    · split at h
      · rename_i m' hread
        cases h
        exact ofIso?_isValid hread
      · cases h
  · cases hvalue : (s.get "resumeAt").truthy? with
    | none =>
      rw [hvalue] at h
      cases h
    | some value =>
      rw [hvalue] at h
      cases h

/-- What is stored as a due time is in universal time, or it is the time of the clock. -/
theorem dueTime_universal {now u : Moment} {due : Option Due} (h : dueTime now due = .ok u)
    (hvalid : ∀ m, due = some (.at m) → m.IsValid) : Universal u ∨ due = none ∧ u = now := by
  unfold dueTime at h
  split at h
  · cases h
    exact Or.inr ⟨rfl, rfl⟩
  · rename_i m
    split at h
    · rename_i u' hu
      cases h
      have hm := assumeUtc_isValid (hvalid m rfl)
      exact Or.inl ⟨toUtc_isValid hm hu, (toUtc_eq hu).1⟩
    · cases h
  · cases h

section
variable {P : Reply → Prop} {T : Moment → Prop} {c : Config} {k : Collaborators σ}

/-- A step that says until when it pauses has a due time if it can be read. -/
theorem due?_ne_none {s : Step} (h : (s.get "resumeAt").isTruthy = true) : s.due? ≠ .ok none := by
  intro hnone
  unfold Step.due? at hnone
  split at hnone
  · rename_i text htext
    split at hnone
    · rename_i hempty
      rw [htext, hempty] at h
      cases h
    · split at hnone <;> cases hnone
  · rw [Json.truthy?, if_pos h] at hnone
    cases hnone

/-- The due time of a run that paused is in universal time, or it is the time of the clock because
a reply paused the run without a due time. -/
theorem paused_due {i : Invocation σ} {e : Enrollment} {w : Workflow.Record} {chain : Chain}
    {p : Resumption} {h : Bool} {report : Report} {calls : List Exchange} {u : Moment}
    (hcomes : (i.plan c h e w chain p).ComesTo P (.ok report) calls)
    (hpaused : report.isPaused = true)
    (hdue : dueTime i.before.clock report.resumeAt = .ok u) :
    Universal u ∨ (¬ ∀ r, P r → r.Definite) ∧ u = i.before.clock := by
  rcases run_closes hcomes with ⟨-, hno, -⟩ | ⟨nodes, -, -, -, hcloses⟩
  · exact absurd (hno.symm.trans hpaused) Bool.false_ne_true
  · generalize report.steps = steps at hcloses
    cases hcloses with
    | arrived _ _ _ hno => exact absurd (hno.symm.trans hpaused) Bool.false_ne_true
    | failed _ _ _ hno => exact absurd (hno.symm.trans hpaused) Bool.false_ne_true
    | paused hbefore hsucc hsp htold hstatus hyes hmem hran =>
      rename_i before s n ch c' xs
      rcases dueTime_universal hdue (fun m hm => due?_isValid (by rw [htold, hm])) with
        hu | ⟨hnone, hu⟩
      · exact Or.inl hu
      · refine Or.inr ⟨fun hP => ?_, hu⟩
        rw [hnone] at htold
        exact due?_ne_none (hran.resumeAt_given hP hsp) htold

/-- **A run keeps the kind of the due times.** -/
theorem Invocation.dated (hk : k.Reply P) (hT : ∀ m, Universal m → T m) (i : Invocation σ)
    (hnow : T i.before.clock ∨ ∀ r, P r → r.Definite) (h : Dated T i.before) :
    Dated T (i.after c k) := by
  have hended := advance_ended c hk i
  generalize i.result c k = res at hended
  generalize i.after c k = s' at hended ⊢
  -- the due time of one row is set, or it is as it was
  have hchanged : ∀ {s' : State σ} {r : Row} {e : Enrollment} {f : Row → Row},
      Found i.before i.id i.news r e → s'.rows = i.before.rows.modify i.id f →
      (∀ r, (f r).id = r.id) → (∀ text ∈ (f r).resumeAt, text ∈ r.resumeAt ∨
        ∃ m, T m ∧ text = m.iso) → Dated T s' := by
    intro s' r e f hf hrows hid hdue
    refine ⟨?_, ?_⟩ <;> rw [hrows]
    · rw [Enrollment.modify_ids hid]
      exact h.ids
    · refine hf.forall_modify h.ids h.due fun hr text htext => ?_
      rcases hdue text htext with hold | hnew
      · exact hr text hold
      · exact hnew
  have hkept : ∀ (e : Enrollment) (r : Row), ∀ text ∈ (refreshed i.news e r).resumeAt,
      text ∈ r.resumeAt ∨ ∃ m, T m ∧ text = m.iso := by
    intro e r text htext
    cases hnews : i.news <;> rw [hnews] at htext <;> exact Or.inl htext
  cases hended with
  | unread => exact h
  | unable hf => exact hchanged hf rfl (refreshed_id _ _) (hkept _ _)
  | faulted hf => exact hchanged hf rfl (refreshed_id _ _) (hkept _ _)
  | lost hf => exact hchanged hf rfl (refreshed_id _ _) (hkept _ _)
  | flawed hf => exact hchanged hf rfl (refreshed_id _ _) fun text htext => by cases htext
  | complete hf => exact hchanged hf rfl (refreshed_id _ _) fun text htext => by cases htext
  | recorded hf hready hcomes hv =>
    rename_i r e w chain p report status completedAt resumeAt world
    refine hchanged hf rfl (refreshed_id _ _) ?_
    intro text htext
    obtain ⟨m, hm, rfl⟩ := Option.map_eq_some_iff.1 htext
    refine Or.inr ⟨m, ?_, rfl⟩
    cases hv with
    | failed => cases hm
    | succeeded => cases hm
    | paused _ hpaused hdue =>
      cases hm
      rcases paused_due hcomes hpaused hdue with hu | ⟨hreply, hu⟩
      · exact hT m hu
      · rw [hu]
        exact hnow.resolve_right hreply

/-- **Every command keeps the kind of the due times**, if the clock shows times of this kind. -/
theorem Command.dated (hk : k.Reply P) (hT : ∀ m, Universal m → T m) (cmd : Command)
    (hcmd : cmd.Sets fun now => T now ∨ ∀ r, P r → r.Definite) {s : State σ}
    (hnow : T s.clock ∨ ∀ r, P r → r.Definite) (h : Dated T s) :
    Dated T (cmd.perform c k s) ∧ (T (cmd.perform c k s).clock ∨ ∀ r, P r → r.Definite) := by
  refine cmd.keeps (I := fun s => Dated T s ∧ (T s.clock ∨ ∀ r, P r → r.Definite)) ?_ ?_ ?_ ?_ ?_
    ⟨h, hnow⟩
  · rintro s₁ s₂ hrows hclock ⟨h, hnow⟩
    exact ⟨⟨by rw [hrows]; exact h.ids, by rw [hrows]; exact h.due⟩, by rw [hclock]; exact hnow⟩
  · rintro s₁ s₂ workflowId source lead overrides w - hr ⟨h, hnow⟩
    refine ⟨⟨hr.ids h.ids, ?_⟩, by rw [hr.clock]; exact hnow⟩
    rw [hr.rows]
    intro r hmem text htext
    rcases List.mem_append.1 hmem with hmem | hmem
    · exact h.due r hmem text htext
    · rw [List.mem_singleton.1 hmem] at htext
      cases htext
  · rintro i - - ⟨h, hnow⟩
    exact ⟨i.dated hk hT hnow h, by rw [i.clock]; exact hnow⟩
  · rintro s₁ s₂ id hrows hclock ⟨h, hnow⟩
    refine ⟨⟨?_, ?_⟩, by rw [hclock]; exact hnow⟩ <;> rw [hrows]
    · exact h.ids.sublist (List.filter_sublist.map _)
    · exact fun r hr => h.due r (List.mem_of_mem_filter hr)
  · rintro s₁ now heq ⟨h, -⟩
    rw [heq] at hcmd
    exact ⟨⟨h.ids, h.due⟩, hcmd⟩

/-- Whatever is done keeps the kind of the due times, if the clock shows times of this kind or every
reply that claims a pause says until when. -/
theorem carry_dues (hk : k.Reply P) (hT : ∀ m, Universal m → T m) : ∀ {cmds : List Command},
    (∀ cmd ∈ cmds, cmd.Sets fun now => T now ∨ ∀ r, P r → r.Definite) → ∀ {s : State σ},
      (T s.clock ∨ ∀ r, P r → r.Definite) → Dated T s → Dated T (carry c k cmds s)
  | [], _, _, _, h => h
  | cmd :: _, hcmds, _, hnow, h =>
    have hnext := cmd.dated hk hT (hcmds cmd List.mem_cons_self) hnow h
    carry_dues hk hT (fun cmd hmem => hcmds cmd (List.mem_cons_of_mem _ hmem)) hnext.2 hnext.1

/-- After whatever is done all due times can be read and compared, if the clock knows its offset. -/
theorem carry_known {s : State σ} (hrows : s.rows = []) (hclock : Known s.clock)
    {cmds : List Command} (hcmds : ∀ cmd ∈ cmds, cmd.Sets Known) :
    Dated Known (carry c k cmds s) :=
  carry_dues k.reply_any (fun _ hm => hm.known)
    (fun cmd hmem => (hcmds cmd hmem).imp fun _ hm => Or.inl hm) (Or.inl hclock) (.of_empty hrows)

/-- After whatever is done all due times are in universal time, if replies that claim a pause say
until when or the clock shows universal time. -/
theorem carry_universal {s : State σ} (hrows : s.rows = []) {cmds : List Command}
    (hkind : k.Reply Reply.Definite ∨
      Universal s.clock ∧ (∀ cmd ∈ cmds, cmd.Sets Universal)) :
    Dated Universal (carry c k cmds s) := by
  rcases hkind with hdefinite | ⟨hzero, hsets⟩
  · refine carry_dues hdefinite (fun _ hm => hm) ?_ (Or.inr fun _ => id) (.of_empty hrows)
    exact fun cmd _ => cmd.sets_any.imp fun _ _ => Or.inr fun _ => id
  · refine carry_dues k.reply_any (fun _ hm => hm) ?_ (Or.inl hzero) (.of_empty hrows)
    exact fun cmd hmem => (hsets cmd hmem).imp fun _ hm => Or.inl hm

end

/-! ### What is due -/

section
variable {T : Moment → Prop} {s : State σ}

/-- The texts of the list are those of due times. -/
theorem Dated.texts (h : Dated T s) :
    ∀ entry ∈ s.rows.scheduledTexts, ∃ m, T m ∧ entry.2 = m.iso := by
  intro entry hentry
  obtain ⟨r, hr, -, htext⟩ := Enrollment.mem_scheduledTexts.1 hentry
  exact h.due r hr entry.2 htext

/-- The list of due times can be read. -/
theorem Dated.scheduled (h : Dated T s) (hT : ∀ m, T m → Known m) :
    ∃ jobs, s.rows.scheduled = .ok jobs ∧
      ∀ job ∈ jobs, ∃ m, T m ∧ job.2 = m.kept := by
  have hread : ∀ entries : List (String × String),
      (∀ entry ∈ entries, ∃ m, T m ∧ entry.2 = m.iso) → ∃ jobs : List (String × Moment),
        List.Forall₂ (fun entry job => job.1 = entry.1 ∧ Moment.ofIso? entry.2 = some job.2)
            entries jobs ∧ ∀ job ∈ jobs, ∃ m, T m ∧ job.2 = m.kept := by
    intro entries
    induction entries with
    | nil => exact fun _ => ⟨[], .nil, fun _ hjob => absurd hjob List.not_mem_nil⟩
    | cons entry entries ih =>
      intro hall
      obtain ⟨m, hm, htext⟩ := hall entry List.mem_cons_self
      obtain ⟨jobs, hjobs, hkinds⟩ := ih fun entry hmem => hall entry (List.mem_cons_of_mem _ hmem)
      refine ⟨(entry.1, m.kept) :: jobs, .cons ⟨rfl, ?_⟩ hjobs, List.forall_mem_cons.2 ⟨?_, hkinds⟩⟩
      · rw [htext]
        exact ofIso?_iso (hT m hm).valid
      · exact ⟨m, hm, rfl⟩
  obtain ⟨jobs, hjobs, hkinds⟩ := hread s.rows.scheduledTexts h.texts
  exact ⟨jobs, Enrollment.scheduled_eq_ok.2 hjobs, hkinds⟩

/-- What is due at a moment whose offset is known is what the list has up to then. -/
theorem Dated.dueAt (h : Dated Known s) {jobs : List (String × Moment)}
    (hjobs : s.rows.scheduled = .ok jobs) {now : Moment} (hnow : now.offset.isSome = true) :
    (∀ job ∈ jobs, (job.2.le? now).isSome = true) ∧ s.rows.dueAt now =
      .ok ((jobs.filter fun job => job.2.le? now = some true).map (·.1)) := by
  have hcompared : ∀ job ∈ jobs, (job.2.le? now).isSome = true := by
    intro job hjob
    obtain ⟨jobs', hjobs', hkinds⟩ := h.scheduled fun _ hm => hm
    obtain rfl := Except.ok.inj (hjobs'.symm.trans hjobs)
    obtain ⟨m, hm, hjob⟩ := hkinds job hjob
    rw [hjob]
    exact le?_isSome (by rw [kept_known]; exact hm.known) hnow
  exact ⟨hcompared, Enrollment.dueAt_eq_ok.2 ⟨jobs, hjobs, hcompared, rfl⟩⟩

theorem le?_of_universal {a b : Moment} (ha : a.offset = some 0) (hb : b.offset = some 0)
    (h : a.reading ≤ b.reading) : a.le? b = some true := by
  have hcompare : a.compare? b = some (compare a.reading b.reading) := by
    unfold Moment.compare?
    rw [ha, hb]
    simp
  have hgt : compare a.reading b.reading ≠ .gt := by
    rw [ne_eq, compare_gt_iff_gt]
    omega
  unfold Moment.le?
  rw [hcompare]
  simp [hgt]

/-- Due times in universal time are listed in their order. -/
theorem Dated.ordered (h : Dated Universal s) {jobs : List (String × Moment)}
    (hjobs : s.rows.scheduled = .ok jobs) :
    jobs.Pairwise fun a b => a.2.le? b.2 = some true := by
  have hsorted : s.rows.scheduledTexts.Pairwise fun a b => a.2 ≤ b.2 :=
    Enrollment.scheduledTexts_sorted
  have hkind := h.texts
  have hread := Enrollment.scheduled_eq_ok.1 hjobs
  generalize s.rows.scheduledTexts = entries at hsorted hkind hread
  have hback : ∀ {entry : String × String} {job : String × Moment},
      (∃ m, Universal m ∧ entry.2 = m.iso) → Moment.ofIso? entry.2 = some job.2 →
      Universal job.2 ∧ entry.2 = job.2.iso := by
    rintro entry job ⟨m, hm, htext⟩ hone
    rw [htext, ofIso?_iso hm.valid, kept_of_utc hm.zero] at hone
    rw [← Option.some.inj hone]
    exact ⟨hm, htext⟩
  clear hjobs
  induction hread with
  | nil => exact .nil
  | cons hone hrest ih =>
    rename_i entry job entries jobs
    obtain ⟨hfirst, hsorted⟩ := List.pairwise_cons.1 hsorted
    obtain ⟨hjob, htext⟩ := hback (hkind entry List.mem_cons_self) hone.2
    refine List.pairwise_cons.2 ⟨?_, ih hsorted fun e he => hkind e (List.mem_cons_of_mem _ he)⟩
    intro later hlater
    obtain ⟨entry', hentry', -, hone'⟩ := exists_of_mem_right hrest hlater
    obtain ⟨hlater', htext'⟩ := hback (hkind entry' (List.mem_cons_of_mem _ hentry')) hone'
    have hle := hfirst entry' hentry'
    rw [htext, htext'] at hle
    exact le?_of_universal hjob.zero hlater'.zero
      (reading_le_of_iso_le hjob.valid hlater'.valid hjob.zero hlater'.zero hle)

end

/-! ### Who is woken -/

section
variable {c : Config} {k : Collaborators σ}

/-- A run ends with a fault that ends the poll as well: any but that the enrollment is gone. -/
def Invocation.Breaks (c : Config) (k : Collaborators σ) (i : Invocation σ) : Prop :=
  ∃ f, i.result c k = .error f ∧ ∀ id, f ≠ .noEnrollment id

/-- Waking goes wrong if the run breaks. -/
theorem fire_breaks (id : String) (s : State σ) :
    (∃ f, ((fire c k id).run s).1 = .error f) ↔ (ringing id s).Breaks c k := by
  have hfire : (fire c k id).run s = (resume c k id).run (ringing id s).before := by
    unfold fire
    rw [run_bind_ok (run_cancelTimer id s)]
    rfl
  rw [hfire]
  unfold resume Invocation.Breaks Invocation.result ringing
  rw [run_tryCatch]
  dsimp only
  rcases hadv : (advance c k id none none).run { s with timers := s.timers.remove id } with
    ⟨f | report, s'⟩
  · have hbody : (do let _ ← advance c k id none none : Op σ Unit).run
        { s with timers := s.timers.remove id } = (.error f, s') := run_bind_error hadv
    rw [hbody]
    constructor
    · rintro ⟨f', hf'⟩
      refine ⟨f, rfl, ?_⟩
      rintro id' rfl
      cases hf'
    · rintro ⟨f', hf', hother⟩
      cases hf'
      refine ⟨f, ?_⟩
      cases f with
      | noEnrollment id' => exact absurd rfl (hother id')
      | _ => rfl
  · have hbody : (do let _ ← advance c k id none none : Op σ Unit).run
        { s with timers := s.timers.remove id } = (.ok (), s') := run_bind_ok hadv
    rw [hbody]
    constructor
    · rintro ⟨f, hf⟩
      cases hf
    · rintro ⟨f, hf, -⟩
      cases hf

/-- The first of those who are attempted breaks, and is the only one, or the rest is attempted. -/
theorem firings_cons (id : String) (rest : List String) (s : State σ) :
    ((ringing id s).Breaks c k ∧ firings c k (id :: rest) s = [ringing id s]) ∨
      (¬ (ringing id s).Breaks c k ∧ ∃ s', firings c k (id :: rest) s =
        ringing id s :: firings c k rest s') := by
  have hbreaks := fire_breaks (c := c) (k := k) id s
  rw [firings]
  rcases hfire : (fire c k id).run s with ⟨f | u, s'⟩
  · rw [hfire] at hbreaks
    exact Or.inl ⟨hbreaks.1 ⟨f, rfl⟩, rfl⟩
  · rw [hfire] at hbreaks
    refine Or.inr ⟨?_, s', rfl⟩
    intro hyes
    obtain ⟨f, hf⟩ := hbreaks.2 hyes
    cases hf

/-- **All are attempted exactly if nobody breaks but perhaps the last.** -/
theorem firings_all : ∀ {ids : List String}, ids.Nodup → ∀ s : State σ,
    ((firings c k ids s).map (·.id) = ids ↔
      ∀ i ∈ firings c k ids s, i.Breaks c k → ids.getLast? = some i.id)
  | [], _, _ => ⟨fun _ i hi => absurd hi List.not_mem_nil, fun _ => rfl⟩
  | id :: rest, hnd, s => by
    obtain ⟨hnew, hnd⟩ := List.nodup_cons.1 hnd
    have hid : (ringing id s).id = id := rfl
    rcases firings_cons (c := c) (k := k) id rest s with ⟨hyes, hone⟩ | ⟨hno, s', hmore⟩
    · -- the first breaks, so it should be the last
      rw [hone, List.map_singleton, List.forall_mem_singleton, hid]
      constructor
      · intro heq _
        rw [← heq]
        rfl
      · intro hlast
        cases rest with
        | nil => rfl
        | cons id' rest =>
          have hlast := hlast hyes
          rw [List.getLast?_cons_cons] at hlast
          exact absurd (List.mem_of_getLast? hlast) hnew
    · rw [hmore, List.map_cons, List.forall_mem_cons, List.cons.injEq, hid]
      have hlast : ∀ i ∈ firings c k rest s', (id :: rest).getLast? = rest.getLast? := by
        intro i hi
        cases rest with
        | nil => exact absurd hi List.not_mem_nil
        | cons id' rest => exact List.getLast?_cons_cons
      rw [firings_all hnd s']
      constructor
      · rintro ⟨-, hrest⟩
        refine ⟨fun hyes => absurd hyes hno, fun i hi hyes => ?_⟩
        rw [hlast i hi]
        exact hrest i hi hyes
      · rintro ⟨-, hall⟩
        refine ⟨rfl, fun i hi hyes => ?_⟩
        rw [← hlast i hi]
        exact hall i hi hyes

/-- **A poll finds everybody who is due, and attempts them in order up to the first that goes
wrong.** After whatever was done with a service that had no enrollments, with a clock that knows its
offset, and at any time whose offset is known:

* those who are due are listed once, with due times that can be read, in the order of these if
  collaborators do not pause runs or the clock only ever showed universal time;
* those who are attempted are the first of them, and all of them exactly if no run breaks but
  perhaps that of the last. -/
theorem wakeDue_attempts {s : State σ} (hrows : s.rows = []) (hclock : Known s.clock)
    {cmds : List Command} (hcmds : ∀ cmd ∈ cmds, cmd.Sets Known) {now : Moment}
    (hnow : now.offset.isSome = true) :
    let s' := carry c k cmds s
    let runs := (Operation.wakeDue now).invocations c k s'
    ∃ due : List (String × Moment),
      (∀ r ∈ s'.rows, ∀ text ∈ r.resumeAt, ∃ m, Moment.ofIso? text = some m ∧
        (m.le? now).isSome = true ∧ (m.le? now = some true → (r.id, m) ∈ due)) ∧
      (∀ job ∈ due, job.2.le? now = some true ∧ ∃ r ∈ s'.rows, r.id = job.1 ∧
        ∃ text ∈ r.resumeAt, Moment.ofIso? text = some job.2) ∧
      (due.map (·.1)).Nodup ∧
      (k.Reply Reply.Plain ∨ Universal s.clock ∧ (∀ cmd ∈ cmds, cmd.Sets Universal) →
        due.Pairwise fun a b => a.2.le? b.2 = some true) ∧
      runs.map (·.id) <+: due.map (·.1) ∧
      (runs.map (·.id) = due.map (·.1) ↔
        ∀ i ∈ runs, i.Breaks c k → (due.map (·.1)).getLast? = some i.id) := by
  intro s' runs
  have hdated : Dated Known s' := carry_known hrows hclock hcmds
  obtain ⟨jobs, hjobs, -⟩ := hdated.scheduled fun _ hm => hm
  obtain ⟨hcompared, hdue⟩ := hdated.dueAt hjobs hnow
  have hnd := Enrollment.dueAt_nodup hdated.ids hdue
  have hruns : runs = firings c k
      ((jobs.filter fun job => job.2.le? now = some true).map (·.1)) s' :=
    wakeDue_invocations hdue
  refine ⟨jobs.filter fun job => job.2.le? now = some true, ?_, ?_, hnd, ?_, ?_, ?_⟩
  · intro r hr text htext
    obtain ⟨job, hjob, hid, hread⟩ := Enrollment.scheduled_of_mem hjobs hr htext
    refine ⟨job.2, hread, hcompared job hjob, fun hle => ?_⟩
    rw [← hid]
    exact List.mem_filter.2 ⟨hjob, decide_eq_true hle⟩
  · intro job hjob
    obtain ⟨hjob, hle⟩ := List.mem_filter.1 hjob
    exact ⟨of_decide_eq_true hle, Enrollment.mem_scheduled hjobs hjob⟩
  · intro hkind
    have hordered : Dated Universal s' := carry_universal hrows <|
      hkind.imp_left fun hplain d w => (hplain d w).definite
    exact (hordered.ordered hjobs).filter _
  · rw [hruns]
    exact firings_initial _ s'
  · rw [hruns]
    exact firings_all hnd s'

end

/-! ### A poll that ends early -/

namespace Sample

/-- Another workflow, with the same definition. -/
def twin : Workflow.File :=
  ⟨.home, "twin-v1.json", .obj [("id", .str "twin"), ("name", .str "Twin"),
    ("definition", definition.toJson)]⟩

/-- A service with both workflows. -/
def twins : State Unit := { service with files := [file, twin] }

/-- An enrollment of each, and the first workflow is deleted while both wait. -/
def polled : List Command :=
  [.operate (.enroll "flow" lead Enrollment.trialSource .none),
    .operate (.enroll "twin" lead Enrollment.trialSource .none), .drop "flow"]

theorem sets_polled {Q : Moment → Prop} : ∀ cmd ∈ polled, cmd.Sets Q := by
  intro cmd hcmd
  simp only [polled, List.mem_cons, List.not_mem_nil, or_false] at hcmd
  rcases hcmd with rfl | rfl | rfl <;> trivial

/-- Two days later. -/
def afterwards : Moment := ⟨63870172800 * second, some 0⟩

theorem known_afterwards : Known afterwards := by
  refine ⟨⟨by decide, ?_⟩, rfl⟩
  intro o ho
  cases ho
  decide

theorem known_clock : Known twins.clock := by
  refine ⟨⟨by decide, ?_⟩, rfl⟩
  intro o ho
  cases ho
  decide

theorem due_polled : (carry config collaborators polled twins).rows.dueAt afterwards =
    .ok ["enrollment-1", "enrollment-2"] := by
  obtain ⟨due, hdue⟩ : ∃ due : Moment, due = ⟨63870086400 * second, some 0⟩ := ⟨_, rfl⟩
  have htexts : (carry config collaborators polled twins).rows.scheduledTexts =
      [("enrollment-1", "2024-12-18T02:40:00+00:00"),
        ("enrollment-2", "2024-12-18T02:40:00+00:00")] := by
    have hrows : ((carry config collaborators polled twins).rows.filterMap fun r =>
        r.resumeAt.map (r.id, ·)) = [("enrollment-1", "2024-12-18T02:40:00+00:00"),
          ("enrollment-2", "2024-12-18T02:40:00+00:00")] := by
      decide +kernel
    unfold Enrollment.Rows.scheduledTexts
    rw [hrows]
    exact List.mergeSort_of_pairwise (by decide)
  have hread : Moment.ofIso? "2024-12-18T02:40:00+00:00" = some due := by
    rw [hdue]
    decide +kernel
  have hle : due.le? afterwards = some true := by
    rw [hdue]
    decide
  refine Enrollment.dueAt_eq_ok.2 ⟨[("enrollment-1", due), ("enrollment-2", due)], ?_, ?_, ?_⟩
  · rw [Enrollment.scheduled_eq_ok, htexts]
    exact .cons ⟨rfl, hread⟩ (.cons ⟨rfl, hread⟩ .nil)
  · simp [hle]
  · simp [hle]

/-- The runs of the poll. -/
theorem runs_polled : ((Operation.wakeDue afterwards).invocations config collaborators
    (carry config collaborators polled twins)).map (·.id) = ["enrollment-1"] := by
  rw [wakeDue_invocations due_polled]
  decide +kernel

end Sample

/-- The sample's poll attempts the first of those who are due. -/
theorem wakeDue_attempts_sample :
    let s := carry Sample.config Sample.collaborators Sample.polled Sample.twins
    let runs := (Operation.wakeDue Sample.afterwards).invocations Sample.config
      Sample.collaborators s
    runs.map (·.id) = ["enrollment-1"] ∧ ∃ due : List (String × Moment),
      (due.map (·.1)).Nodup ∧ (due.Pairwise fun a b => a.2.le? b.2 = some true) ∧
        runs.map (·.id) <+: due.map (·.1) := by
  intro s runs
  obtain ⟨due, -, -, hnd, hordered, hattempted, -⟩ := wakeDue_attempts (c := Sample.config)
    (k := Sample.collaborators) (s := Sample.twins) rfl Sample.known_clock Sample.sets_polled
    Sample.known_afterwards.known
  exact ⟨Sample.runs_polled, due, hnd, hordered (Or.inl Sample.collaborators_plain), hattempted⟩

/-- Behind the enrollment of a deleted workflow nobody is attempted. -/
theorem poll_ends_at_orphan :
    let s := carry Sample.config Sample.collaborators Sample.polled Sample.twins
    s.rows.dueAt Sample.afterwards = .ok ["enrollment-1", "enrollment-2"] ∧
      ((Operation.wakeDue Sample.afterwards).invocations Sample.config Sample.collaborators
        s).map (·.id) = ["enrollment-1"] :=
  ⟨Sample.due_polled, Sample.runs_polled⟩

end Service
end Cadence
