/-
# Who is forgotten

An enrollment with a due time is to be woken by its timer. The timer is gone by the time the
enrollment is run. Recording the run sets it again or clears the due time; a run that ends with a
fault does neither. If it was woken, its due time stays behind without a timer: the enrollment is
forgotten until somebody advances it, or the service starts again.

That is the only way. Along whatever is done with a service, all enrollments with due times have
timers exactly as long as no run lapses and every start after a stop sets all its timers
(`watchful_iff`). A fault at an enrollment that was not woken leaves its timer as it was, and one
enrollment's run does not touch the timers of others (`Invocation.watched_iff`,
`Invocation.watched_other`).

Key definitions: `Watched`, `Watchful`, `Invocation.Lapses`, `Command.Lapses`.
Key theorems: `Invocation.watched_iff`, `Woken.watched_iff`, `Command.watchful`, `watchful_iff`.
-/
import Cadence.Proofs.Enrollment.Due
import Cadence.Proofs.Service.Command
import Cadence.Proofs.Service.Shape

namespace Cadence

/-! ### Timers that are set and cancelled -/

namespace Timers

section
variable {t t' : Timers} {id id' : String}

theorem isArmed_iff : t.isArmed id = true ↔ ∃ j ∈ t.jobs, j.id = id := by
  simp [isArmed]

theorem isArmed_remove_self (t : Timers) (id : String) : (t.remove id).isArmed id = false := by
  simp [isArmed, remove]

theorem isArmed_remove_of_ne (h : id' ≠ id) (t : Timers) :
    (t.remove id).isArmed id' = t.isArmed id' := by
  rw [Bool.eq_iff_iff, isArmed_iff, isArmed_iff]
  constructor
  · rintro ⟨j, hj, hid⟩
    exact ⟨j, List.mem_of_mem_filter hj, hid⟩
  · rintro ⟨j, hj, hid⟩
    have hkept : j ∈ (t.remove id).jobs := by simp [remove, hj, hid, h]
    exact ⟨j, hkept, hid⟩

/-- Setting a timer puts its job in place of the one it had. -/
theorem arm_eq_ok {now : Time.Moment} {ceiling ms : Int} {delay : Delay}
    (h : t.arm now ceiling id delay = .ok (ms, t')) :
    ∃ at_, t' = ⟨true, (t.remove id).jobs ++ [⟨id, at_⟩]⟩ := by
  unfold arm at h
  obtain ⟨ms', -, h⟩ := bind_eq_ok.1 h
  split at h
  · cases h
  · rename_i at_ _
    cases h
    exact ⟨at_, rfl⟩

theorem isArmed_arm {now : Time.Moment} {ceiling ms : Int} {delay : Delay}
    (h : t.arm now ceiling id delay = .ok (ms, t')) :
    t'.isArmed id = true ∧ ∀ id' ≠ id, t'.isArmed id' = t.isArmed id' := by
  obtain ⟨at_, rfl⟩ := arm_eq_ok h
  refine ⟨isArmed_iff.2 ⟨⟨id, at_⟩, List.mem_append_right _ List.mem_cons_self, rfl⟩, ?_⟩
  intro id' hne
  rw [← isArmed_remove_of_ne hne t]
  simp [isArmed, hne.symm]

/-- Timers that run, with at most one job for each id. -/
structure Ticking (t : Timers) : Prop where
  running : t.isRunning = true
  jobs : (t.jobs.map (·.id)).Nodup

theorem Ticking.remove (h : t.Ticking) (id : String) : (t.remove id).Ticking :=
  ⟨h.running, h.jobs.sublist (List.filter_sublist.map _)⟩

theorem Ticking.arm {now : Time.Moment} {ceiling ms : Int} {delay : Delay} (h : t.Ticking)
    (harm : t.arm now ceiling id delay = .ok (ms, t')) : t'.Ticking := by
  have hnone := isArmed_remove_self t id
  obtain ⟨at_, rfl⟩ := arm_eq_ok harm
  refine ⟨rfl, ?_⟩
  rw [List.map_append, List.nodup_append]
  refine ⟨(h.remove id).jobs, by simp, ?_⟩
  intro id₁ h₁ id₂ h₂ heq
  rw [List.map_singleton, List.mem_singleton] at h₂
  obtain ⟨j, hj, hid⟩ := List.mem_map.1 h₁
  have harmed : (t.remove id).isArmed id = true :=
    isArmed_iff.2 ⟨j, hj, hid.trans (heq.trans h₂)⟩
  rw [hnone] at harmed
  cases harmed

end

end Timers

namespace Service

open Time
open Enrollment (Row Rows recorded)

variable {σ : Type} {c : Config} {k : Collaborators σ}

/-! ### One run -/

/-- If the enrollment with an id has a due time, it has a timer. -/
def Watched (s : State σ) (id : String) : Prop :=
  ∀ r ∈ s.rows, r.id = id → r.resumeAt.isSome = true → s.timers.isArmed id = true

/-- A run ends with a fault and leaves a due time behind for which there was no timer. -/
def Invocation.Lapses (c : Config) (k : Collaborators σ) (i : Invocation σ) : Prop :=
  (∃ f, i.result c k = .error f) ∧ i.before.timers.isArmed i.id = false ∧
    ∃ r ∈ (i.after c k).rows, r.id = i.id ∧ r.resumeAt.isSome = true

/-- The timers after a recorded run are those that the due time asks for. -/
theorem rearm_eq_ok {s : State σ} {id : String} {due : Option Moment} {t : Timers}
    (h : rearm c id due s = .ok t) : t.isArmed id = due.isSome ∧
      (∀ id' ≠ id, t.isArmed id' = s.timers.isArmed id') ∧ (s.timers.Ticking → t.Ticking) := by
  cases due with
  | none =>
    cases h
    exact ⟨Timers.isArmed_remove_self _ _, fun id' hne => Timers.isArmed_remove_of_ne hne _,
      fun ht => ht.remove id⟩
  | some due =>
    obtain ⟨⟨ms, t'⟩, harm, rfl⟩ := map_eq_ok.1 h
    obtain ⟨hself, hother⟩ := Timers.isArmed_arm harm
    exact ⟨hself, hother, fun ht => ht.arm harm⟩

/-- **A run leaves the timers as they were, with a fault, or they are those that the due time it
recorded asks for.** -/
theorem Invocation.timers_cases (i : Invocation σ) :
    (∃ f, i.result c k = .error f) ∧ (i.after c k).timers = i.before.timers ∨
      ∃ report due, i.result c k = .ok report ∧
        rearm c i.id due i.before = .ok (i.after c k).timers ∧
        ∀ r ∈ (i.after c k).rows, r.id = i.id → r.resumeAt = due.map Moment.iso := by
  have hk := k.reply_any
  have hrow : ∀ {steps : List Step} {status : Enrollment.Status}
      {completedAt resumeAt : Option Moment} {e : Enrollment} {r : Row},
      r ∈ i.before.rows.modify i.id (recorded steps status completedAt resumeAt ∘
        refreshed i.news e) → r.id = i.id → r.resumeAt = resumeAt.map Moment.iso := by
    intro steps status completedAt resumeAt e r hr hid
    obtain ⟨r₀, -, rfl⟩ := Enrollment.mem_modify hr
    split at hid
    · rename_i heq
      rw [if_pos heq]
      rfl
    · rename_i hne
      exact absurd hid hne
  have hended := advance_ended c hk i
  generalize i.result c k = res at hended ⊢
  generalize i.after c k = s' at hended ⊢
  cases hended with
  | unread => exact Or.inl ⟨⟨_, rfl⟩, rfl⟩
  | unable => exact Or.inl ⟨⟨_, rfl⟩, rfl⟩
  | flawed => exact Or.inr ⟨_, none, rfl, rfl, fun r hr hid => hrow hr hid⟩
  | complete => exact Or.inr ⟨_, none, rfl, rfl, fun r hr hid => hrow hr hid⟩
  | faulted => exact Or.inl ⟨⟨_, rfl⟩, rfl⟩
  | lost => exact Or.inl ⟨⟨_, rfl⟩, rfl⟩
  | recorded =>
    rename_i r e w chain p report status completedAt resumeAt world _ _ _ _
    cases hset : rearm c i.id resumeAt i.before with
    | error f => exact Or.inl ⟨⟨f, rfl⟩, rfl⟩
    | ok t => exact Or.inr ⟨report, resumeAt, rfl, hset, fun r hr hid => hrow hr hid⟩

/-- A run does not touch the rows of other enrollments. -/
theorem Invocation.mem_of_ne (i : Invocation σ) {r : Row} (h : r.id ≠ i.id) :
    r ∈ (i.after c k).rows ↔ r ∈ i.before.rows := by
  have hk := k.reply_any
  have hended := advance_ended c hk i
  generalize i.result c k = res at hended
  generalize i.after c k = s' at hended ⊢
  cases hended with
  | unread => exact Iff.rfl
  | _ =>
    refine Enrollment.mem_modify_of_ne ?_ h
    exact refreshed_id i.news _

/-- A run does not change whether others are watched. -/
theorem Invocation.watched_other (i : Invocation σ) {id : String} (h : id ≠ i.id) :
    Watched (i.after c k) id ↔ Watched i.before id := by
  have htimers : (i.after c k).timers.isArmed id = i.before.timers.isArmed id := by
    rcases i.timers_cases (c := c) (k := k) with ⟨-, heq⟩ | ⟨report, due, -, hset, -⟩
    · rw [heq]
    · exact (rearm_eq_ok hset).2.1 id h
  unfold Watched
  rw [htimers]
  refine forall_congr' fun r => ?_
  constructor
  · intro hall hr hid
    exact hall ((i.mem_of_ne (by rw [hid]; exact h)).2 hr) hid
  · intro hall hr hid
    exact hall ((i.mem_of_ne (by rw [hid]; exact h)).1 hr) hid

/-- **After a run its enrollment is watched, unless the run lapses.** -/
theorem Invocation.watched_iff (i : Invocation σ) :
    Watched (i.after c k) i.id ↔ ¬ i.Lapses c k := by
  rcases i.timers_cases (c := c) (k := k) with ⟨hfault, heq⟩ | ⟨report, due, hres, hset, hrow⟩
  · constructor
    · rintro hwatched ⟨-, hnone, r, hr, hid, hdue⟩
      have harmed := hwatched r hr hid hdue
      rw [heq, hnone] at harmed
      cases harmed
    · intro hno r hr hid hdue
      by_contra hnone
      rw [heq, Bool.not_eq_true] at hnone
      exact hno ⟨hfault, hnone, r, hr, hid, hdue⟩
  · constructor
    · rintro - ⟨⟨f, hf⟩, -⟩
      rw [hres] at hf
      cases hf
    · intro _ r hr hid hdue
      rw [hrow r hr hid, Option.isSome_map] at hdue
      rw [(rearm_eq_ok hset).1, hdue]

theorem Invocation.ticking (i : Invocation σ) (h : i.before.timers.Ticking) :
    (i.after c k).timers.Ticking := by
  rcases i.timers_cases (c := c) (k := k) with ⟨-, heq⟩ | ⟨report, due, -, hset, -⟩
  · rw [heq]
    exact h
  · exact (rearm_eq_ok hset).2.2 h

/-- One run among enrollments that are watched leaves all of them watched, unless it lapses. -/
theorem Invocation.watched (i : Invocation σ) (h : ∀ id, Watched i.before id) :
    (∀ id, Watched (i.after c k) id) ↔ ¬ i.Lapses c k := by
  rw [← i.watched_iff]
  constructor
  · exact fun hall => hall i.id
  · intro hself id
    by_cases hid : id = i.id
    · rw [hid]
      exact hself
    · exact (i.watched_other hid).2 (h id)

/-! ### Enrollments that are woken -/

theorem ringing_watched {s : State σ} {id id' : String} (h : id' ≠ id) :
    Watched (ringing id s).before id' ↔ Watched s id' := by
  have htimers : (ringing id s).before.timers.isArmed id' = s.timers.isArmed id' :=
    Timers.isArmed_remove_of_ne h s.timers
  unfold Watched
  rw [htimers]
  exact Iff.rfl

/-- Who is not woken is watched as before. -/
theorem Woken.watched_other {s s' : State σ} {is : List (Invocation σ)} (h : Woken c k s is s')
    {id : String} (hid : id ∉ is.map (·.id)) : Watched s' id ↔ Watched s id := by
  induction h with
  | done => exact Iff.rfl
  | wake _ ih =>
    rename_i id' s s' is _
    have hne : id ≠ (ringing id' s).id := fun heq => hid (heq ▸ List.mem_cons_self)
    rw [ih fun hmem => hid (List.mem_cons_of_mem _ hmem), (ringing id' s).watched_other hne]
    exact ringing_watched hne

/-- **Who is woken once is watched afterwards, unless the run lapses.** -/
theorem Woken.watched_iff {s s' : State σ} {is : List (Invocation σ)} (h : Woken c k s is s')
    (hnd : (is.map (·.id)).Nodup) : ∀ i ∈ is, (Watched s' i.id ↔ ¬ i.Lapses c k) := by
  induction h with
  | done => exact fun i hi => absurd hi List.not_mem_nil
  | wake hrest ih =>
    rename_i id s s' is
    obtain ⟨hnew, hnd⟩ := List.nodup_cons.1 hnd
    intro i hi
    rcases List.mem_cons.1 hi with rfl | hi
    · rw [hrest.watched_other hnew, (ringing id s).watched_iff]
    · exact ih hnd i hi

theorem Woken.ticking {s s' : State σ} {is : List (Invocation σ)} (h : Woken c k s is s')
    (ht : s.timers.Ticking) : s'.timers.Ticking := by
  induction h with
  | done => exact ht
  | wake _ ih => exact ih ((ringing _ _).ticking (ht.remove _))

theorem rings_sublist : ∀ (jobs : List Job) (s : State σ),
    ((rings c k jobs s).map (·.id)).Sublist (jobs.map (·.id))
  | [], _ => .slnil
  | job :: rest, s => by
    unfold rings
    split
    · exact List.Sublist.cons_cons job.id (rings_sublist rest _)
    · exact (rings_sublist rest s).cons job.id

/-- No operation runs an enrollment twice. -/
theorem Operation.invocations_nodup (op : Operation) {s : State σ}
    (hids : (s.rows.map (·.id)).Nodup) (ht : s.timers.Ticking) :
    ((op.invocations c k s).map (·.id)).Nodup := by
  cases op with
  | enroll workflowId lead source overrides =>
    rcases enroll_cases (c := c) (k := k) workflowId lead source overrides s with
      ⟨hnone, -⟩ | ⟨w, s', -, hone, -⟩
    · rw [hnone]
      exact List.nodup_nil
    · rw [hone]
      exact List.nodup_singleton _
  | wakeDue now =>
    cases hdue : s.rows.dueAt now with
    | error f =>
      rw [wakeDue_invocations_error hdue]
      exact List.nodup_nil
    | ok due =>
      rw [wakeDue_invocations hdue]
      exact (Enrollment.dueAt_nodup hids hdue).sublist (firings_initial due s).sublist
  | tick =>
    have hdue : ((s.timers.dueJobs s.clock.assumeUtc).map (·.id)).Nodup := by
      refine ((List.mergeSort_perm _ _).map _).nodup_iff.2 ?_
      exact ht.jobs.sublist (List.filter_sublist.map _)
    exact hdue.sublist (rings_sublist _ s)
  | _ => simp [Operation.invocations]

/-! ### Starting -/

theorem armAll_ticking (now : Moment) : ∀ (jobs : List (String × Moment)) (s : State σ),
    s.timers.Ticking → ((armAll c now jobs : Op σ Unit).after s).timers.Ticking
  | [], _, ht => ht
  | (id, due) :: rest, s, ht => by
    unfold armAll Op.after
    rw [run_bind, Op.after, run_armTimer]
    rcases harm : s.timers.arm s.clock.universal c.maxDelayMs id (.until_ due now) with
      f | ⟨ms, timers⟩
    · exact ht
    · exact armAll_ticking now rest _ (ht.arm harm)

/-- Setting timers cancels none. -/
theorem armAll_isArmed (now : Moment) : ∀ (jobs : List (String × Moment)) (s : State σ)
    {id : String}, s.timers.isArmed id = true →
      ((armAll c now jobs : Op σ Unit).after s).timers.isArmed id = true
  | [], _, _, harmed => harmed
  | (id', due) :: rest, s, id, harmed => by
    unfold armAll Op.after
    rw [run_bind, Op.after, run_armTimer]
    rcases harm : s.timers.arm s.clock.universal c.maxDelayMs id' (.until_ due now) with
      f | ⟨ms, timers⟩
    · exact harmed
    · refine armAll_isArmed now rest _ ?_
      obtain ⟨hself, hother⟩ := Timers.isArmed_arm harm
      by_cases hid : id = id'
      · rw [hid]
        exact hself
      · exact (hother id hid).trans harmed

/-- All of the timers have been set, or one of them has not and there is a fault. -/
theorem armAll_cases (now : Moment) : ∀ (jobs : List (String × Moment)) (s : State σ),
    (jobs.map (·.1)).Nodup → (∀ job ∈ jobs, s.timers.isArmed job.1 = false) →
    ∃ res s', (armAll c now jobs : Op σ Unit).run s = (res, s') ∧
      (res = .ok () ∧ (∀ job ∈ jobs, s'.timers.isArmed job.1 = true) ∨
        (∃ f, res = .error f) ∧ ∃ job ∈ jobs, s'.timers.isArmed job.1 = false)
  | [], s, _, _ => ⟨.ok (), s, rfl, Or.inl ⟨rfl, fun _ hjob => absurd hjob List.not_mem_nil⟩⟩
  | (id, due) :: rest, s, hnd, hnone => by
    have hone := run_armTimer c id (.until_ due now) s
    rcases harm : s.timers.arm s.clock.universal c.maxDelayMs id (.until_ due now) with
      f | ⟨ms, timers⟩ <;> rw [harm] at hone
    · refine ⟨.error f, s, run_bind_error hone, Or.inr ⟨⟨f, rfl⟩, (id, due), ?_, ?_⟩⟩
      · exact List.mem_cons_self
      · exact hnone _ List.mem_cons_self
    · obtain ⟨hself, hother⟩ := Timers.isArmed_arm harm
      obtain ⟨hnew, hnd⟩ := List.nodup_cons.1 hnd
      have hrest : ∀ job ∈ rest, timers.isArmed job.1 = false := by
        intro job hjob
        have hne : job.1 ≠ id := fun heq => hnew (List.mem_map.2 ⟨job, hjob, heq⟩)
        rw [hother job.1 hne]
        exact hnone job (List.mem_cons_of_mem _ hjob)
      obtain ⟨res, s', hrun, hcases⟩ := armAll_cases now rest { s with timers } hnd hrest
      refine ⟨res, s', (run_bind_ok hone).trans hrun, ?_⟩
      rcases hcases with ⟨hres, hall⟩ | ⟨hfault, job, hjob, hnot⟩
      · refine Or.inl ⟨hres, List.forall_mem_cons.2 ⟨?_, hall⟩⟩
        have hkept := armAll_isArmed (c := c) now rest { s with timers } hself
        unfold Op.after at hkept
        rw [hrun] at hkept
        exact hkept
      · exact Or.inr ⟨hfault, job, List.mem_cons_of_mem _ hjob, hnot⟩

/-- Starting is setting all timers that are in the store. -/
theorem run_start (c : Config) (s : State σ) : (start c : Op σ Nat).run s =
    match s.rows.scheduled with
    | .error f => (.error f, { s with timers := s.timers.start })
    | .ok jobs =>
      let armed := (armAll c s.clock jobs : Op σ Unit).run { s with timers := s.timers.start }
      (armed.1.map fun _ => jobs.length, armed.2) := by
  unfold start
  rw [run_bind_ok (run_modify _ s), run_bind_ok (run_get _), run_bind, Op.after, run_orFault]
  cases s.rows.scheduled with
  | error f => rfl
  | ok jobs =>
    dsimp only
    rw [run_bind]
    unfold Op.after
    rcases (armAll c s.clock jobs : Op σ Unit).run { s with timers := s.timers.start } with
      ⟨f | u, s'⟩ <;> rfl

/-- Starting keeps who is watched. -/
theorem start_watched {s : State σ} {id : String} (h : Watched s id) :
    Watched ((start c : Op σ Nat).after s) id := by
  have hrows := (start_idle (c := c) s).rows
  intro r hr hid hdue
  rw [hrows] at hr
  have harmed : s.timers.start.isArmed id = true := h r hr hid hdue
  unfold Op.after
  rw [run_start]
  split
  · exact harmed
  · exact armAll_isArmed s.clock _ { s with timers := s.timers.start } harmed

theorem start_ticking {s : State σ} (h : (s.timers.jobs.map (·.id)).Nodup) :
    ((start c : Op σ Nat).after s).timers.Ticking := by
  have hstart : s.timers.start.Ticking := ⟨rfl, h⟩
  unfold Op.after
  rw [run_start]
  split
  · exact hstart
  · exact armAll_ticking s.clock _ { s with timers := s.timers.start } hstart

/-- **Where no timers are set, a start watches all, if every timer could be set.** -/
theorem start_watches_iff {s : State σ} (hids : (s.rows.map (·.id)).Nodup)
    (hjobs : s.timers.jobs = []) :
    (∀ id, Watched ((start c : Op σ Nat).after s) id) ↔
      ∀ f, ((start c : Op σ Nat).run s).1 ≠ .error f := by
  unfold Watched
  rw [(start_idle s).rows]
  unfold Op.after
  rw [run_start]
  cases hsched : s.rows.scheduled with
  | error f =>
    constructor
    · intro hall
      obtain ⟨r, hr, hdue⟩ := Enrollment.due_of_unreadable hsched
      obtain ⟨j, hj, -⟩ := Timers.isArmed_iff.1 (hall r.id r hr rfl hdue)
      have hnone : j ∈ s.timers.jobs := hj
      rw [hjobs] at hnone
      exact absurd hnone List.not_mem_nil
    · exact fun hno => absurd rfl (hno f)
  | ok jobs =>
    have hnd : (jobs.map (·.1)).Nodup := by
      rw [Enrollment.scheduled_ids hsched]
      exact Enrollment.scheduledTexts_nodup hids
    have hnone : ∀ job ∈ jobs, s.timers.start.isArmed job.1 = false := by
      intro job _
      unfold Timers.isArmed Timers.start
      rw [hjobs]
      rfl
    obtain ⟨res, s', hrun, hcases⟩ :=
      armAll_cases (c := c) s.clock jobs { s with timers := s.timers.start } hnd hnone
    dsimp only
    rw [hrun]
    rcases hcases with ⟨rfl, hall⟩ | ⟨⟨f, rfl⟩, job, hjob, hnot⟩
    · refine ⟨fun _ f hf => (by cases hf), fun _ id r hr hid hdue => ?_⟩
      obtain ⟨text, htext⟩ := Option.isSome_iff_exists.1 hdue
      obtain ⟨job, hjob, hjid, -⟩ := Enrollment.scheduled_of_mem hsched hr htext
      rw [← hid, ← hjid]
      exact hall job hjob
    · refine ⟨fun hall => ?_, fun hno => absurd rfl (hno f)⟩
      obtain ⟨r, hr, hid, text, htext, -⟩ := Enrollment.mem_scheduled hsched hjob
      have htext : r.resumeAt = some text := htext
      have harmed := hall job.1 r hr hid (by rw [htext]; rfl)
      rw [hnot] at harmed
      cases harmed

/-- After a stop all are watched again, if every timer could be set. -/
theorem restart_watched {s : State σ} (hids : (s.rows.map (·.id)).Nodup) :
    (∀ id, Watched (Command.restart.perform c k s) id) ↔
      ∀ f, ((start c : Op σ Nat).run ((stop : Op σ Unit).after s)).1 ≠ .error f :=
  have hjobs : ((stop : Op σ Unit).after s).timers.jobs = [] := rfl
  start_watches_iff hids hjobs

/-! ### All commands -/

/-- All enrollments are watched. -/
structure Watchful (s : State σ) : Prop where
  ids : (s.rows.map (·.id)).Nodup
  ticking : s.timers.Ticking
  watched : ∀ id, Watched s id

/-- A command has a run that lapses, or starts the service again without all its timers. -/
def Command.Lapses (c : Config) (k : Collaborators σ) : Command → State σ → Prop
  | .operate op, s => ∃ i ∈ op.invocations c k s, i.Lapses c k
  | .restart, s => ∃ f, ((start c : Op σ Nat).run ((stop : Op σ Unit).after s)).1 = .error f
  | _, _ => False

/-- Commands keep the ids of enrollments distinct. -/
theorem Command.ids (cmd : Command) {s : State σ} (h : (s.rows.map (·.id)).Nodup) :
    ((cmd.perform c k s).rows.map (·.id)).Nodup := by
  refine cmd.keeps (I := fun s => (s.rows.map (·.id)).Nodup) ?_ ?_ ?_ ?_ ?_ h
  · intro s₁ s₂ hrows _ h
    rw [hrows]
    exact h
  · exact fun _ hr h => hr.ids h
  · intro i _ _ h
    rw [i.ids]
    exact h
  · intro s₁ s₂ id hrows _ h
    rw [hrows]
    exact h.sublist (List.filter_sublist.map _)
  · exact fun _ h => h

/-- Making an enrollment leaves who is watched, because a new one has no due time. -/
theorem Registered.watched {s s' : State σ} {e : Enrollment} (hr : Registered s e s')
    (hnew : e.resumeAt = none) {id : String} (h : Watched s id) : Watched s' id := by
  intro r hmem hid hdue
  rw [hr.rows] at hmem
  rw [hr.timers]
  rcases List.mem_append.1 hmem with hmem | hmem
  · exact h r hmem hid hdue
  · rw [List.mem_singleton.1 hmem] at hdue
    unfold Row.ofEnrollment at hdue
    rw [hnew] at hdue
    cases hdue

/-- What wakes each enrollment at most once leaves all watched, unless one of the runs lapses. -/
theorem Woken.watchful {s s' : State σ} {is : List (Invocation σ)} (hw : Woken c k s is s')
    (h : Watchful s) (hnd : (is.map (·.id)).Nodup) :
    s'.timers.Ticking ∧ ((∀ id, Watched s' id) ↔ ∀ i ∈ is, ¬ i.Lapses c k) := by
  refine ⟨hw.ticking h.ticking, fun hall i hi => (hw.watched_iff hnd i hi).1 (hall i.id), ?_⟩
  intro hno id
  by_cases hid : id ∈ is.map (·.id)
  · obtain ⟨i, hi, rfl⟩ := List.mem_map.1 hid
    exact (hw.watched_iff hnd i hi).2 (hno i hi)
  · exact (hw.watched_other hid).2 (h.watched id)

/-- **An operation leaves all enrollments watched, unless one of its runs lapses.** Timers go on
ticking. -/
theorem Operation.watched (op : Operation) (hop : op ≠ .stop) {s : State σ} (h : Watchful s) :
    (op.perform c k s).timers.Ticking ∧
      ((∀ id, Watched (op.perform c k s) id) ↔
        ∀ i ∈ op.invocations c k s, ¬ i.Lapses c k) := by
  -- what wakes enrollments wakes each of them once
  have hnd := op.invocations_nodup (c := c) (k := k) h.ids h.ticking
  -- and a state with the same timers and due times is watched as before
  have hstill : ∀ {s' : State σ}, s'.timers.Ticking → (∀ id, Watched s' id) →
      s'.timers.Ticking ∧ ((∀ id, Watched s' id) ↔ ∀ i ∈ ([] : List (Invocation σ)),
        ¬ i.Lapses c k) :=
    fun ht hall => ⟨ht, fun _ i hi => absurd hi List.not_mem_nil, fun _ => hall⟩
  cases op with
  | enroll workflowId lead source overrides =>
    rcases enroll_cases (c := c) (k := k) workflowId lead source overrides s with
      ⟨hnone, hidle, htimers⟩ | ⟨w, s', hreg, hone, hafter⟩
    · rw [hnone]
      refine hstill (by rw [htimers]; exact h.ticking) fun id r hr hid hdue => ?_
      rw [hidle.rows] at hr
      rw [htimers]
      exact h.watched id r hr hid hdue
    · rw [hone, hafter, List.forall_mem_singleton]
      refine ⟨Invocation.ticking _ (by rw [hreg.timers]; exact h.ticking), ?_⟩
      exact Invocation.watched _ fun id => hreg.watched rfl (h.watched id)
  | advance id ignore news =>
    obtain ⟨i, hi⟩ : ∃ i : Invocation σ, i = ⟨id, ignore, news, s⟩ := ⟨_, rfl⟩
    have hone : (Operation.advance id ignore news).invocations c k s = [i] := by
      rw [hi]
      rfl
    have hafter : (Operation.advance id ignore news).perform c k s = i.after c k := by
      rw [hi]
      rfl
    have hbefore : i.before = s := by rw [hi]
    rw [hone, hafter, List.forall_mem_singleton]
    exact ⟨i.ticking (by rw [hbefore]; exact h.ticking),
      i.watched (by rw [hbefore]; exact h.watched)⟩
  | fire id => exact (Operation.woken _ s (Or.inr (Or.inl ⟨id, rfl⟩))).watchful h hnd
  | wakeDue now => exact (Operation.woken _ s (Or.inr (Or.inr ⟨now, rfl⟩))).watchful h hnd
  | tick => exact (Operation.woken _ s (Or.inl rfl)).watchful h hnd
  | start => exact hstill (start_ticking h.ticking.jobs) fun id => start_watched (h.watched id)
  | stop => exact absurd rfl hop
  | setClock now => exact hstill h.ticking h.watched

/-- **A command leaves all enrollments watched, unless it lapses.** -/
theorem Command.watchful (cmd : Command) (hcmd : cmd ≠ .operate .stop) {s : State σ}
    (h : Watchful s) : Watchful (cmd.perform c k s) ↔ ¬ cmd.Lapses c k s := by
  have hids := cmd.ids (c := c) (k := k) h.ids
  -- what is left to show is about timers
  have hrest : (cmd.perform c k s).timers.Ticking →
      ((∀ id, Watched (cmd.perform c k s) id) ↔ ¬ cmd.Lapses c k s) →
        (Watchful (cmd.perform c k s) ↔ ¬ cmd.Lapses c k s) :=
    fun ht hiff => ⟨fun hw => hiff.1 hw.watched, fun hno => ⟨hids, ht, hiff.2 hno⟩⟩
  cases cmd with
  | operate op =>
    obtain ⟨hticking, hiff⟩ :=
      op.watched (c := c) (k := k) (fun heq => hcmd (by rw [heq])) h
    refine hrest hticking ?_
    rw [show (Command.operate op).perform c k s = op.perform c k s from rfl, hiff]
    unfold Command.Lapses
    push Not
    exact Iff.rfl
  | restart =>
    refine hrest (start_ticking List.nodup_nil) ?_
    rw [restart_watched h.ids]
    unfold Command.Lapses
    push Not
    exact Iff.rfl
  | delete id =>
    refine hrest (h.ticking.remove id) ⟨fun _ hno => hno, fun _ id' r hr hid hdue => ?_⟩
    have hboth : r ∈ s.rows ∧ r.id ≠ id := by
      have hr : r ∈ s.rows.filter (·.id ≠ id) := hr
      simpa using hr
    have hne : id' ≠ id := by
      rw [← hid]
      exact hboth.2
    have hkept : (s.timers.remove id).isArmed id' = true := by
      rw [Timers.isArmed_remove_of_ne hne]
      exact h.watched id' r hboth.1 hid hdue
    exact hkept
  | save record =>
    obtain ⟨files, hafter⟩ := save_after record s
    have hperform : (Command.save record).perform c k s = { s with files } := hafter
    rw [hperform] at hrest ⊢
    exact hrest h.ticking ⟨fun _ hno => hno, fun _ => h.watched⟩
  | drop workflowId =>
    obtain ⟨files, hafter⟩ := drop_after workflowId s
    have hperform : (Command.drop workflowId).perform c k s = { s with files } := hafter
    rw [hperform] at hrest ⊢
    exact hrest h.ticking ⟨fun _ hno => hno, fun _ => h.watched⟩

/-- **No enrollment is forgotten, unless a run lapses.** On a service that was started and whose
enrollments are watched, whatever is done as long as it is not stopped for good: all enrollments
with due times have timers all the time exactly if no run that was woken ends with a fault and
leaves a due time behind, and no start behind a stop ends with a fault. -/
theorem watchful_iff {s : State σ} (hs : Watchful s) {cmds : List Command}
    (hcmds : ∀ cmd ∈ cmds, cmd ≠ .operate .stop) :
    (∀ n : Nat, Watchful (carry c k (cmds.take n) s)) ↔
      ∀ (n : Nat) (cmd : Command), cmds[n]? = some cmd → ¬ cmd.Lapses c k (carry c k (cmds.take n) s) := by
  constructor
  · intro hall n cmd hcmd
    have hnext : carry c k (cmds.take (n + 1)) s =
        cmd.perform c k (carry c k (cmds.take n) s) := by
      rw [List.take_add_one, hcmd, carry_append]
      rfl
    have hmem := hcmds cmd (List.mem_of_getElem? hcmd)
    rw [← cmd.watchful hmem (hall n), ← hnext]
    exact hall (n + 1)
  · intro hno n
    induction n with
    | zero => exact hs
    | succ n ih =>
      rw [List.take_add_one, carry_append]
      cases hcmd : cmds[n]? with
      | none => exact ih
      | some cmd => exact (cmd.watchful (hcmds cmd (List.mem_of_getElem? hcmd)) ih).2 (hno n cmd hcmd)

/-! ### An enrollment whose workflow is deleted -/

/-- The sample's service after it was started. -/
def Sample.started : State Unit := (start Sample.config : Op Unit Nat).after Sample.service

/-- A workflow is deleted while an enrollment waits, and the enrollment's timer rings. -/
def Sample.orphaned : List Command :=
  [.operate (.enroll "flow" Sample.lead Enrollment.trialSource .none), .drop "flow",
    .operate (.setClock ⟨63870172800 * second, some 0⟩), .operate .tick]

/-- Among what is done to the sample something lapses. -/
theorem watchful_iff_sample : Watchful Sample.started ∧
    ¬ ∀ (n : Nat) (cmd : Command), Sample.orphaned[n]? = some cmd →
      ¬ cmd.Lapses Sample.config Sample.collaborators
        (carry Sample.config Sample.collaborators (Sample.orphaned.take n) Sample.started) := by
  have hstarted : Watchful Sample.started := by
    have hrows : Sample.started.rows = [] := (start_idle Sample.service).rows
    have htimers : Sample.started.timers = ⟨true, []⟩ := by decide +kernel
    refine ⟨by rw [hrows]; exact List.nodup_nil, ⟨by rw [htimers], by simp [htimers]⟩, ?_⟩
    intro id r hr
    rw [hrows] at hr
    exact absurd hr List.not_mem_nil
  have hcmds : ∀ cmd ∈ Sample.orphaned, cmd ≠ .operate .stop := by decide
  refine ⟨hstarted, fun hno => ?_⟩
  have hall := (watchful_iff hstarted hcmds).2 hno 4
  have hnone : ∃ r ∈ (carry Sample.config Sample.collaborators (Sample.orphaned.take 4)
      Sample.started).rows, r.resumeAt.isSome = true ∧ (carry Sample.config Sample.collaborators
        (Sample.orphaned.take 4) Sample.started).timers.isArmed r.id = false := by
    decide +kernel
  obtain ⟨r, hr, hdue, hnot⟩ := hnone
  have harmed := hall.watched r.id r hr rfl hdue
  rw [hnot] at harmed
  cases harmed

/-- The enrollment of a deleted workflow is forgotten when its timer rings. -/
theorem orphan_is_forgotten :
    let after := carry Sample.config Sample.collaborators Sample.orphaned Sample.started
    after.timers.isRunning = true ∧
      ∃ r ∈ after.rows, r.resumeAt.isSome = true ∧ after.timers.isArmed r.id = false := by
  decide +kernel

end Service
end Cadence
