/-
# No timer without an enrollment that waits for it

Timers and rows are two states that are written one after the other. Whatever is done with a
service, with or without a fault, a timer that is set is that of an enrollment which is there, is in
progress and has a due time (`carry_guarded`). The due time is written before the timer is set, so a
fault in between leaves a due time without a timer, never the other way round; and a due time is
only ever written together with the status of an enrollment in progress.

The converse is not so: due times without timers are what `Lapses` is about.

Key definitions: `Guarded`.
Key theorems: `Guarded.recorded`, `Invocation.guarded`, `Command.guarded`, `guarded_afterwards`,
`carry_guarded`.
-/
import Cadence.Proofs.Service.Armed

namespace Cadence
namespace Service

open Time
open Enrollment (Row Rows recorded)

/-! ### Rows and timers -/

/-- Rows with due times are in progress, and all timers are those of rows with due times. -/
structure Guarded (rows : Rows) (t : Timers) : Prop where
  opened : ∀ r ∈ rows, r.resumeAt.isSome = true → r.status = .inProgress
  owned : ∀ job ∈ t.jobs, ∃ r ∈ rows, r.id = job.id ∧ r.resumeAt.isSome = true

namespace Guarded

variable {rows : Rows} {t t' : Timers} {id : String}

theorem of_empty (hrows : rows = []) (hjobs : t.jobs = []) : Guarded rows t := by
  rw [hrows]
  exact ⟨nofun, fun job hjob => by rw [hjobs] at hjob; exact absurd hjob List.not_mem_nil⟩

/-- There is no timer for an enrollment that is not in progress. -/
theorem unarmed (h : Guarded rows t) (hids : (rows.map (·.id)).Nodup) {r : Row} (hr : r ∈ rows)
    (hclosed : r.status ≠ .inProgress) : t.isArmed r.id = false := by
  rw [Bool.eq_false_iff]
  intro harmed
  obtain ⟨job, hjob, hid⟩ := Timers.isArmed_iff.1 harmed
  obtain ⟨r', hr', hid', hdue⟩ := h.owned job hjob
  obtain rfl := List.inj_on_of_nodup_map hids hr' hr (hid'.trans hid)
  exact hclosed (h.opened r' hr' hdue)

/-- Timers can be taken off. -/
theorem fewer (h : Guarded rows t) (hsub : ∀ job ∈ t'.jobs, job ∈ t.jobs) : Guarded rows t' :=
  ⟨h.opened, fun job hjob => h.owned job (hsub job hjob)⟩

theorem remove (h : Guarded rows t) (id : String) : Guarded rows (t.remove id) :=
  h.fewer fun _ hjob => List.mem_of_mem_filter hjob

/-- A timer can be set for who has a due time. -/
theorem arm (h : Guarded rows t) {now : Moment} {ceiling ms : Int} {delay : Delay}
    (hset : t.arm now ceiling id delay = .ok (ms, t'))
    (hdue : ∃ r ∈ rows, r.id = id ∧ r.resumeAt.isSome = true) : Guarded rows t' := by
  obtain ⟨at_, rfl⟩ := Timers.arm_eq_ok hset
  refine ⟨h.opened, fun job hjob => ?_⟩
  rcases List.mem_append.1 hjob with hold | hnew
  · exact (h.remove id).owned job hold
  · rw [List.mem_singleton.1 hnew]
    exact hdue

/-- News about a lead change neither status nor due time. -/
theorem told (h : Guarded rows t) (news : Option Lead) (e : Enrollment) :
    Guarded (rows.modify id (refreshed news e)) t := by
  have hsame : ∀ r : Row, (refreshed news e r).status = r.status ∧
      (refreshed news e r).resumeAt = r.resumeAt := fun r => by
    cases news <;> exact ⟨rfl, rfl⟩
  constructor
  · intro r' hr' hdue
    obtain ⟨r, hr, rfl⟩ := Enrollment.mem_modify hr'
    by_cases hid : r.id = id
    · rw [if_pos hid, (hsame r).2] at hdue
      rw [if_pos hid, (hsame r).1]
      exact h.opened r hr hdue
    · rw [if_neg hid] at hdue ⊢
      exact h.opened r hr hdue
  · intro job hjob
    obtain ⟨r, hr, hid, hdue⟩ := h.owned job hjob
    refine ⟨_, List.mem_map_of_mem hr, ?_⟩
    by_cases hrid : r.id = id
    · rw [if_pos hrid, refreshed_id, (hsame r).2]
      exact ⟨hid, hdue⟩
    · rw [if_neg hrid]
      exact ⟨hid, hdue⟩

/-- **A run is recorded**: its due time comes with the status of an enrollment in progress, and if
it has none, the timer has been cancelled. -/
theorem recorded (h : Guarded rows t) (news : Option Lead) (e : Enrollment) (steps : List Step)
    {status : Enrollment.Status} (completedAt : Option Moment) {resumeAt : Option Moment}
    (hstatus : resumeAt.isSome = true → status = .inProgress)
    (hcancel : resumeAt = none → t.isArmed id = false) :
    Guarded (rows.modify id (recorded steps status completedAt resumeAt ∘ refreshed news e)) t := by
  constructor
  · intro r' hr' hdue
    obtain ⟨r, hr, rfl⟩ := Enrollment.mem_modify hr'
    by_cases hid : r.id = id
    · rw [if_pos hid] at hdue ⊢
      simp only [Enrollment.recorded, Function.comp_apply, Option.isSome_map] at hdue
      exact hstatus hdue
    · rw [if_neg hid] at hdue ⊢
      exact h.opened r hr hdue
  · intro job hjob
    obtain ⟨r, hr, hid, hdue⟩ := h.owned job hjob
    refine ⟨_, List.mem_map_of_mem hr, ?_⟩
    by_cases hrid : r.id = id
    · have hsome : resumeAt.isSome = true := by
        by_contra hnone
        have hoff := hcancel (Option.not_isSome_iff_eq_none.1 hnone)
        rw [Timers.isArmed_iff.2 ⟨job, hjob, hid.symm.trans hrid⟩] at hoff
        cases hoff
      rw [if_pos hrid]
      simp [Enrollment.recorded, hid, hsome]
    · rw [if_neg hrid]
      exact ⟨hid, hdue⟩

/-- An enrollment without a due time can be made. -/
theorem append (h : Guarded rows t) {e : Enrollment} (hnew : e.resumeAt = none) :
    Guarded (rows ++ [Row.ofEnrollment e]) t := by
  constructor
  · intro r hr hdue
    rcases List.mem_append.1 hr with hold | hmade
    · exact h.opened r hold hdue
    · rw [List.mem_singleton.1 hmade, Row.ofEnrollment, hnew] at hdue
      cases hdue
  · intro job hjob
    obtain ⟨r, hr, hid, hdue⟩ := h.owned job hjob
    exact ⟨r, List.mem_append_left _ hr, hid, hdue⟩

/-- An enrollment goes together with its timer. -/
theorem delete (h : Guarded rows t) (id : String) :
    Guarded (rows.filter (·.id ≠ id)) (t.remove id) := by
  constructor
  · exact fun r hr hdue => h.opened r (List.mem_of_mem_filter hr) hdue
  · intro job hjob
    obtain ⟨hold, hne⟩ : job ∈ t.jobs ∧ job.id ≠ id := by
      simpa [Timers.remove] using hjob
    obtain ⟨r, hr, hid, hdue⟩ := h.owned job hold
    have hkept : r ∈ rows.filter (·.id ≠ id) := by simp [hr, hid, hne]
    exact ⟨r, hkept, hid, hdue⟩

end Guarded

variable {σ : Type} {c : Config} {k : Collaborators σ}

/-! ### One run -/

/-- The timers after a recorded run are those before it, as far as they are those of others or the
enrollment is still due; or the timer that was set is new. -/
theorem Guarded.rearm {s : State σ} (h : Guarded s.rows s.timers) {id : String} {r : Row}
    (hr : r ∈ s.rows) (hid : r.id = id) (news : Option Lead) (e : Enrollment) (steps : List Step)
    {now : Moment} {report : Report} {status : Enrollment.Status}
    {completedAt resumeAt : Option Moment} (hv : Verdict now report status completedAt resumeAt) :
    Guarded (s.rows.modify id
      (Enrollment.recorded steps status completedAt resumeAt ∘ refreshed news e))
        ((Service.rearm c id resumeAt s).toOption.getD s.timers) := by
  have hstatus : resumeAt.isSome = true → status = .inProgress := by
    intro hsome
    cases hv with
    | failed => cases hsome
    | paused => rfl
    | succeeded => cases hsome
  cases resumeAt with
  | none =>
    exact (h.remove id).recorded news e steps completedAt hstatus fun _ =>
      Timers.isArmed_remove_self s.timers id
  | some due =>
    have hrec : Guarded (s.rows.modify id
        (Enrollment.recorded steps status completedAt (some due) ∘ refreshed news e)) s.timers :=
      h.recorded news e steps completedAt hstatus nofun
    cases hset : s.timers.arm s.clock.universal c.maxDelayMs id (.until_ due s.clock) with
    | error f =>
      simpa [Service.rearm, hset, Except.map, Except.toOption] using hrec
    | ok armed =>
      have hdue : ∃ r' ∈ s.rows.modify id
          (Enrollment.recorded steps status completedAt (some due) ∘ refreshed news e),
          r'.id = id ∧ r'.resumeAt.isSome = true := by
        refine ⟨_, List.mem_map_of_mem hr, ?_⟩
        rw [if_pos hid]
        simp [Enrollment.recorded, hid]
      simpa [Service.rearm, hset, Except.map, Except.toOption] using hrec.arm hset hdue

/-- **A run keeps timers with who waits for them**, however it ends. -/
theorem Invocation.guarded (i : Invocation σ) (h : Guarded i.before.rows i.before.timers) :
    Guarded (i.after c k).rows (i.after c k).timers := by
  have hk := k.reply_any
  have hended := advance_ended c hk i
  generalize i.result c k = res at hended
  generalize i.after c k = s' at hended ⊢
  cases hended with
  | unread => exact h
  | unable => exact h.told i.news _
  | flawed | complete =>
    exact (h.remove i.id).recorded i.news _ [] _ nofun fun _ =>
      Timers.isArmed_remove_self i.before.timers i.id
  | faulted => exact h.told i.news _
  | lost => exact h.told i.news _
  | recorded hfound _ _ hv => exact h.rearm hfound.mem hfound.rowId i.news _ _ hv

/-! ### Whatever is done -/

theorem Woken.guarded {s s' : State σ} {is : List (Invocation σ)} (hw : Woken c k s is s')
    (h : Guarded s.rows s.timers) : Guarded s'.rows s'.timers := by
  induction hw with
  | done => exact h
  | wake _ ih => exact ih ((ringing _ _).guarded (h.remove _))

theorem armAll_guarded (now : Moment) : ∀ (jobs : List (String × Moment)) (s : State σ),
    (∀ job ∈ jobs, ∃ r ∈ s.rows, r.id = job.1 ∧ r.resumeAt.isSome = true) →
    Guarded s.rows s.timers → Guarded s.rows ((armAll c now jobs : Op σ Unit).after s).timers
  | [], _, _, h => h
  | (id, due) :: rest, s, hdue, h => by
    rw [List.forall_mem_cons] at hdue
    unfold armAll Op.after
    rw [run_bind, Op.after, run_armTimer]
    rcases hset : s.timers.arm s.clock.universal c.maxDelayMs id (.until_ due now) with
      f | ⟨ms, timers⟩
    · exact h
    · exact armAll_guarded now rest { s with timers } hdue.2 (h.arm hset hdue.1)

/-- A start sets timers for those only who have due times. -/
theorem start_guarded {s : State σ} (h : Guarded s.rows s.timers) :
    Guarded ((start c : Op σ Nat).after s).rows ((start c : Op σ Nat).after s).timers := by
  have hstarted : Guarded s.rows s.timers.start := h.fewer fun _ hjob => hjob
  rw [(start_idle s).rows]
  unfold Op.after
  rw [run_start]
  cases hsched : s.rows.scheduled with
  | error f => exact hstarted
  | ok jobs =>
    refine armAll_guarded s.clock jobs { s with timers := s.timers.start } (fun job hjob => ?_)
      hstarted
    obtain ⟨r, hr, hid, text, htext, -⟩ := Enrollment.mem_scheduled hsched hjob
    exact ⟨r, hr, hid, by rw [show r.resumeAt = some text from htext]; rfl⟩

theorem stop_guarded {s : State σ} (h : Guarded s.rows s.timers) :
    Guarded ((stop : Op σ Unit).after s).rows ((stop : Op σ Unit).after s).timers :=
  h.fewer fun _ hjob => absurd hjob List.not_mem_nil

theorem Operation.guarded (op : Operation) {s : State σ} (h : Guarded s.rows s.timers) :
    Guarded (op.perform c k s).rows (op.perform c k s).timers := by
  cases op with
  | enroll workflowId lead source overrides =>
    rcases enroll_cases (c := c) (k := k) workflowId lead source overrides s with
      ⟨-, hidle, htimers⟩ | ⟨w, s', hreg, -, hafter⟩
    · rw [hidle.rows, htimers]
      exact h
    · rw [hafter]
      refine Invocation.guarded _ ?_
      rw [hreg.rows, hreg.timers]
      exact h.append rfl
  | advance id ignore news => exact (⟨id, ignore, news, s⟩ : Invocation σ).guarded h
  | fire id => exact (Operation.woken _ s (Or.inr (Or.inl ⟨id, rfl⟩))).guarded h
  | wakeDue now => exact (Operation.woken _ s (Or.inr (Or.inr ⟨now, rfl⟩))).guarded h
  | tick => exact (Operation.woken _ s (Or.inl rfl)).guarded h
  | start => exact start_guarded h
  | stop => exact stop_guarded h
  | setClock now => exact h

theorem play_guarded : ∀ (ops : List Operation) {s : State σ}, Guarded s.rows s.timers →
    Guarded (play c k ops s).rows (play c k ops s).timers
  | [], _, h => h
  | op :: ops, _, h => play_guarded ops (op.guarded h)

/-- **Every command keeps timers with who waits for them.** -/
theorem Command.guarded (cmd : Command) {s : State σ} (h : Guarded s.rows s.timers) :
    Guarded (cmd.perform c k s).rows (cmd.perform c k s).timers := by
  cases cmd with
  | operate op => exact op.guarded h
  | restart => exact start_guarded (stop_guarded h)
  | delete id => exact h.delete id
  | save record =>
    obtain ⟨files, hafter⟩ := save_after record s
    have hperform : (Command.save record).perform c k s = { s with files } := hafter
    rw [hperform]
    exact h
  | drop workflowId =>
    obtain ⟨files, hafter⟩ := drop_after workflowId s
    have hperform : (Command.drop workflowId).perform c k s = { s with files } := hafter
    rw [hperform]
    exact h

/-- What is done with a service whose timers are those of who waits keeps it so. -/
theorem guarded_afterwards : ∀ (cmds : List Command) {s : State σ},
    Guarded s.rows s.timers → Guarded (carry c k cmds s).rows (carry c k cmds s).timers
  | [], _, h => h
  | cmd :: cmds, _, h => guarded_afterwards cmds (cmd.guarded h)

/-- **No timer is set for nobody.** Whatever was done with a service that began without enrollments
and timers, and however it ended: every timer that is set is that of an enrollment which is there,
is in progress and has a due time. -/
theorem carry_guarded {s : State σ} (hrows : s.rows = []) (hjobs : s.timers.jobs = [])
    (cmds : List Command) : ∀ job ∈ (carry c k cmds s).timers.jobs,
      ∃ r ∈ (carry c k cmds s).rows,
        r.id = job.id ∧ r.status = .inProgress ∧ r.resumeAt.isSome = true := by
  have hend := guarded_afterwards (c := c) (k := k) cmds (.of_empty hrows hjobs)
  intro job hjob
  obtain ⟨r, hr, hid, hdue⟩ := hend.owned job hjob
  exact ⟨r, hr, hid, hend.opened r hr hdue, hdue⟩

/-- In the sample an enrollment waits, and its timer is set. -/
theorem carry_guarded_sample :
    let after := carry Sample.config Sample.collaborators (Sample.orphaned.take 1) Sample.started
    after.timers.jobs.length = 1 ∧ ∀ job ∈ after.timers.jobs, ∃ r ∈ after.rows,
      r.id = job.id ∧ r.status = .inProgress ∧ r.resumeAt.isSome = true :=
  ⟨by decide +kernel,
    carry_guarded (start_idle Sample.service).rows (by decide +kernel) (Sample.orphaned.take 1)⟩

end Service
end Cadence
