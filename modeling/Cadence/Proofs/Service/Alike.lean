/-
# What a run of an enrollment depends on

A run reads the row of its enrollment, the workflows and the clock, and nothing else of a service.
Two states that show the same of these (`Alike`) may differ in the rows and timers of all other
enrollments, and even in what their collaborators are. Begun in two such states, a run comes to the
same and leaves such states behind (`begin_agrees`, `conclude_agrees`, `advance_agrees`), if the
replies are the same.

A run does not touch what belongs to others either: for any other enrollment the states before and
after it are alike, timers included (`Invocation.apart`).

States are compared with or without the timer of the enrollment. How a timer is set depends on what
the clock shows at that moment, so two runs whose clocks went on differently agree in rows only.

Key definitions: `Timers.jobsOf`, `Alike`, `Agree`, `Collaborators.Steady`.
Key theorems: `begin_agrees`, `conclude_agrees`, `advance_agrees`, `Invocation.apart`.
-/
import Cadence.Proofs.Enrollment.Tables
import Cadence.Proofs.Service.Armed

namespace Cadence

/-! ### The timer of an enrollment -/

namespace Timers

/-- The jobs for an id. -/
def jobsOf (t : Timers) (id : String) : List Job := t.jobs.filter (·.id = id)

variable {t t' : Timers} {id id' : String}

theorem jobsOf_remove_self (t : Timers) (id : String) : (t.remove id).jobsOf id = [] := by
  simp [jobsOf, remove]

theorem jobsOf_remove_of_ne (h : id' ≠ id) (t : Timers) : (t.remove id).jobsOf id' = t.jobsOf id' := by
  unfold jobsOf remove
  rw [List.filter_filter]
  refine List.filter_congr fun j _ => ?_
  by_cases hj : j.id = id' <;> simp [hj, h]

/-- Timers that have the same jobs for each id have the same jobs. -/
theorem perm_of_jobsOf (h : ∀ id, t'.jobsOf id = t.jobsOf id) : t'.jobs.Perm t.jobs := by
  rw [List.perm_iff_count]
  intro j
  have hcount : ∀ jobs : List Job, jobs.count j = (jobs.filter (·.id = j.id)).count j := fun jobs =>
    (List.count_filter (by simp)).symm
  rw [hcount t'.jobs, hcount t.jobs]
  exact congrArg (List.count j) (h j.id)

/-- When a timer rings, and whether it can be set at all, does not depend on other timers. -/
theorem arm_eq (now : Time.Moment) (ceiling : Int) (id : String) (delay : Delay) :
    ∃ set : Except Fault (Int × Time.Moment), ∀ t : Timers, t.arm now ceiling id delay =
      set.map fun (ms, at_) => (ms, ⟨true, (t.remove id).jobs ++ [⟨id, at_⟩]⟩) := by
  unfold arm
  cases hms : delay.clamp (.whole ceiling) with
  | error f => exact ⟨.error f, fun _ => rfl⟩
  | ok ms =>
    cases hat : now.add (ms * 1000) with
    | none =>
      refine ⟨.error .overflow, fun t => ?_⟩
      simp only [bind, Except.bind, hat]
      rfl
    | some at_ =>
      refine ⟨.ok (ms, at_), fun t => ?_⟩
      simp only [bind, Except.bind, hat]
      rfl

theorem jobsOf_set (t : Timers) (id : String) (at_ : Time.Moment) :
    jobsOf ⟨true, (t.remove id).jobs ++ [⟨id, at_⟩]⟩ id = [⟨id, at_⟩] := by
  simp [jobsOf, remove]

theorem jobsOf_set_of_ne (h : id' ≠ id) (t : Timers) (at_ : Time.Moment) :
    jobsOf ⟨true, (t.remove id).jobs ++ [⟨id, at_⟩]⟩ id' = t.jobsOf id' := by
  rw [← jobsOf_remove_of_ne h t]
  simp [jobsOf, h.symm]

end Timers

/-- Collaborators whose replies depend on nothing but what they are asked for. -/
def Collaborators.Steady {σ : Type} (k : Collaborators σ) : Prop :=
  ∀ d w w', (k.deliver d w').1 = (k.deliver d w).1

/-- What a plan comes to with steady collaborators does not depend on their state. -/
theorem Plan.run_steady {σ α : Type} {k : Collaborators σ} (hk : k.Steady) :
    ∀ (p : Plan α) (w w' : σ), (p.run k w').1 = (p.run k w).1
  | .done _, _, _ => rfl
  | .ask d next, w, w' => by
    show ((next (k.deliver d w').1).run k _).1 = ((next (k.deliver d w).1).run k _).1
    rw [hk d w w']
    exact run_steady hk (next (k.deliver d w).1) _ _

namespace Service

open Time
open Enrollment (Row Rows recorded)

variable {σ τ α β : Type}

/-! ### States that show the same of an enrollment -/

/-- Two states show the same of an enrollment: the workflows, the time and its row; and its timer as
well, if states are compared with timers. -/
structure Alike (timed : Prop) (id : String) (s : State σ) (t : State τ) : Prop where
  files : t.files = s.files
  clock : t.clock = s.clock
  row : t.rows.find? id = s.rows.find? id
  jobs : timed → t.timers.jobsOf id = s.timers.jobsOf id

/-- Two operations came to the same and left states behind that are alike. -/
structure Agree (timed : Prop) (id : String) (x : Except Fault α × State σ)
    (y : Except Fault α × State τ) : Prop where
  result : y.1 = x.1
  after : Alike timed id x.2 y.2

section
variable {timed : Prop} {id : String} {s : State σ} {t : State τ}

theorem Alike.symm (h : Alike timed id s t) : Alike timed id t s :=
  ⟨h.files.symm, h.clock.symm, h.row.symm, fun ht => (h.jobs ht).symm⟩

theorem Alike.trans {ρ : Type} {u : State ρ} (h : Alike timed id s t) (h' : Alike timed id t u) :
    Alike timed id s u :=
  ⟨h'.files.trans h.files, h'.clock.trans h.clock, h'.row.trans h.row,
    fun ht => (h'.jobs ht).trans (h.jobs ht)⟩

theorem Alike.get (h : Alike timed id s t) : t.rows.get id = s.rows.get id := by
  unfold Rows.get
  rw [h.row]

theorem Alike.load (h : Alike timed id s t) (workflowId : String) :
    t.files.load t.clock.universal workflowId = s.files.load s.clock.universal workflowId := by
  rw [h.files, h.clock]

/-- What belongs to the same row and is changed in the same way stays the same. -/
theorem Alike.modify (h : Alike timed id s t) (f : Row → Row) (hf : ∀ r, (f r).id = r.id) :
    (t.rows.modify id f).find? id = (s.rows.modify id f).find? id := by
  rw [Enrollment.find?_modify id hf, Enrollment.find?_modify id hf, h.row]

/-- Where one of two operations that agree came to something, the other did too. -/
theorem Agree.ran {x : Except Fault α × State σ} {y : Except Fault α × State τ}
    (h : Agree timed id x y) {res : Except Fault α} {s' : State σ} (hx : x = (res, s')) :
    ∃ t', y = (res, t') ∧ Alike timed id s' t' := by
  obtain ⟨hresult, hafter⟩ := h
  rw [hx] at hresult hafter
  exact ⟨y.2, Prod.ext hresult rfl, hafter⟩

theorem Agree.fault (h : Alike timed id s t) (f : Fault) :
    Agree timed id ((.error f, s) : Except Fault α × State σ) (.error f, t) := ⟨rfl, h⟩

theorem Agree.pure (h : Alike timed id s t) (a : α) :
    Agree timed id ((.ok a, s) : Except Fault α × State σ) (.ok a, t) := ⟨rfl, h⟩

theorem Agree.orFault (h : Alike timed id s t) (r : Except Fault α) :
    Agree timed id ((orFault r : Op σ α).run s) ((orFault r : Op τ α).run t) := by
  rw [run_orFault, run_orFault]
  exact ⟨rfl, h⟩

/-- Two operations in a row agree where the first do, and the second go on alike. -/
theorem Agree.bind {x : Op σ α} {y : Op τ α} {f : α → Op σ β} {g : α → Op τ β}
    (h : Agree timed id (x.run s) (y.run t))
    (hnext : ∀ {a} {s' : State σ} {t' : State τ}, x.run s = (.ok a, s') → Alike timed id s' t' →
      Agree timed id ((f a).run s') ((g a).run t')) :
    Agree timed id ((x >>= f).run s) ((y >>= g).run t) := by
  rcases hx : x.run s with ⟨f' | a, s'⟩
  · obtain ⟨t', hy, hafter⟩ := h.ran hx
    rw [run_bind_error hx, run_bind_error hy]
    exact ⟨rfl, hafter⟩
  · obtain ⟨t', hy, hafter⟩ := h.ran hx
    rw [run_bind_ok hx, run_bind_ok hy]
    exact hnext hx hafter

/-! ### Up to the plan -/

theorem getUpdated_agrees (news : Option Lead) (h : Alike timed id s t) :
    Agree timed id ((getUpdated id news : Op σ Enrollment).run s)
      ((getUpdated id news : Op τ Enrollment).run t) := by
  unfold getUpdated
  refine .bind (x := findEnrollment id) (y := findEnrollment id) ?_ fun {e s' t'} _ h' => ?_
  · rw [run_findEnrollment, run_findEnrollment, h.get]
    rcases s.rows.get id with f | _ | e
    · exact .fault h f
    · exact .fault h (.noEnrollment id)
    · exact .pure h e
  · cases news with
    | none => exact .pure h' e
    | some news => exact ⟨rfl, h'.files, h'.clock, h'.modify _ fun _ => rfl, h'.jobs⟩

theorem latestWorkflow_agrees (workflowId : String) (h : Alike timed id s t) :
    Agree timed id ((latestWorkflow workflowId : Op σ Workflow.Record).run s)
      ((latestWorkflow workflowId : Op τ Workflow.Record).run t) := by
  rw [run_latestWorkflow, run_latestWorkflow, h.load]
  rcases s.files.load s.clock.universal workflowId with f | _ | w
  · exact .fault h f
  · exact .fault h (.noWorkflow workflowId)
  · exact .pure h w

theorem recordRun_agrees (steps : List Step) (status : Enrollment.Status)
    (completedAt resumeAt : Option Moment) (h : Alike timed id s t) :
    Agree timed id ((recordRun id steps status completedAt resumeAt : Op σ Unit).run s)
      ((recordRun id steps status completedAt resumeAt : Op τ Unit).run t) := by
  by_cases hrow : (s.rows.find? id).isSome = true
  · rw [run_recordRun hrow, run_recordRun (by rw [h.row]; exact hrow)]
    refine ⟨rfl, h.files, h.clock, h.modify _ fun _ => rfl, fun ht => ?_⟩
    cases resumeAt with
    | none => exact (Timers.jobsOf_remove_self _ _).trans (Timers.jobsOf_remove_self _ _).symm
    | some due => exact h.jobs ht
  · -- without a row both give the same fault and do nothing
    have hnone : ∀ {ρ : Type} {u : State ρ}, (u.rows.find? id).isSome ≠ true →
        (recordRun id steps status completedAt resumeAt : Op ρ Unit).run u =
          (.error (.noEntry id), u) := by
      intro ρ u hu
      have hfault : u.rows.recordRun id steps status.name completedAt resumeAt =
          .error (.noEntry id) := by
        unfold Rows.recordRun
        rw [if_pos (by simpa using hu)]
      unfold recordRun
      rw [run_bind_ok (run_get u), hfault]
      exact run_bind_error rfl
    rw [hnone hrow, hnone (by rw [h.row]; exact hrow)]
    exact .fault h (.noEntry id)

/-- **Up to its plan a run sees only its enrollment**, the workflows and the time. -/
theorem begin_agrees (c : Config) (handsOver : Bool) (ignore : Option Bool) (news : Option Lead)
    (h : Alike timed id s t) :
    Agree timed id ((begin_ c handsOver id ignore news : Op σ Begun).run s)
      ((begin_ c handsOver id ignore news : Op τ Begun).run t) := by
  unfold begin_
  refine .bind (getUpdated_agrees news h) fun {e s₁ t₁} hget h₁ => ?_
  have hid : e.id = id := by
    rcases run_getUpdated id news s with ⟨f, hfault, -⟩ | ⟨r, e', hfound, hok⟩
    · rw [hfault] at hget
      cases hget
    · rw [hok] at hget
      cases hget
      exact hfound.ids.1
  refine .bind (latestWorkflow_agrees e.workflowId h₁) fun {w s₂ t₂} _ h₂ => ?_
  rw [run_bind_ok (run_get s₂), run_bind_ok (run_get t₂), h₂.clock, hid]
  cases w.definition.linearize with
  | error flaw => exact .bind (recordRun_agrees _ _ _ _ h₂) fun _ h₃ => .pure h₃ _
  | ok chain =>
    refine .bind (.orFault h₂ _) fun {p s₃ t₃} _ h₃ => ?_
    by_cases hnone : p.node.isNone = true
    · rw [if_pos hnone, if_pos hnone]
      exact .bind (recordRun_agrees _ _ _ _ h₃) fun _ h₄ => .pure h₄ _
    · rw [if_neg hnone, if_neg hnone]
      exact .pure h₃ _

/-! ### From the report on -/

theorem armTimer_agrees (c : Config) (delay : Delay) (h : Alike timed id s t) :
    Agree timed id ((armTimer c id delay : Op σ Int).run s)
      ((armTimer c id delay : Op τ Int).run t) := by
  obtain ⟨set, hset⟩ := Timers.arm_eq s.clock.universal c.maxDelayMs id delay
  rw [run_armTimer, run_armTimer, h.clock, hset, hset]
  cases set with
  | error f => exact .fault h f
  | ok made =>
    have hjobs := (Timers.jobsOf_set t.timers id made.2).trans
      (Timers.jobsOf_set s.timers id made.2).symm
    exact ⟨rfl, h.files, rfl, h.row, fun _ => hjobs⟩

/-- **What is recorded of a report depends on its enrollment only.** -/
theorem conclude_agrees (c : Config) {e : Enrollment} (he : e.id = id) (now : Moment) (r : Report)
    (h : Alike timed id s t) :
    Agree timed id ((conclude c e now r : Op σ Report).run s)
      ((conclude c e now r : Op τ Report).run t) := by
  unfold conclude
  rw [he]
  by_cases hfailed : r.status = .failed
  · rw [if_pos hfailed, if_pos hfailed]
    exact .bind (recordRun_agrees _ _ _ _ h) fun _ h' => .pure h' r
  rw [if_neg hfailed, if_neg hfailed]
  by_cases hpaused : r.isPaused = true
  · rw [if_pos hpaused, if_pos hpaused]
    refine .bind (.orFault h _) fun {due s₁ t₁} _ h₁ => ?_
    refine .bind (recordRun_agrees _ _ _ _ h₁) fun {_ s₂ t₂} _ h₂ => ?_
    rw [run_bind_ok (run_get s₂), run_bind_ok (run_get t₂), h₂.clock]
    exact .bind (armTimer_agrees c _ h₂) fun _ h₃ => .pure h₃ r
  · rw [if_neg hpaused, if_neg hpaused]
    exact .bind (recordRun_agrees _ _ _ _ h) fun _ h' => .pure h' r

/-- Nobody is asked before there is a plan. -/
theorem begin_world (c : Config) (handsOver : Bool) (id : String) (ignore : Option Bool)
    (news : Option Lead) (s : State σ) :
    ((begin_ c handsOver id ignore news).after s).world = s.world := by
  obtain ⟨res, s', hbegin, hbegins⟩ := begin_begins c handsOver id ignore news s
  unfold Op.after
  rw [hbegin]
  cases hbegins <;> rfl

/-- **A run depends on its enrollment**, the workflows, the time and the replies that it gets. -/
theorem advance_agrees (c : Config) {k : Collaborators σ} {l : Collaborators τ}
    (hands : l.handsOver = k.handsOver) (ignore : Option Bool) (news : Option Lead)
    (hreplies : ∀ plan : Plan (Except Fault Report),
      (plan.run l t.world).1 = (plan.run k s.world).1) (h : Alike timed id s t) :
    Agree timed id ((advance c k id ignore news).run s) ((advance c l id ignore news).run t) := by
  have hworld := begin_world c k.handsOver id ignore news s
  have hworld' := begin_world c k.handsOver id ignore news t
  unfold Op.after at hworld hworld'
  obtain ⟨res, s', hs, hbegins⟩ := begin_begins c k.handsOver id ignore news s
  obtain ⟨t', ht, halike⟩ := (begin_agrees c k.handsOver ignore news h).ran hs
  rw [hs] at hworld
  rw [ht] at hworld'
  -- where there is no plan, the run is over
  have hover : ∀ made : Except Fault Report, res = made.map .finished →
      Agree timed id ((advance c k id ignore news).run s) ((advance c l id ignore news).run t) := by
    rintro made rfl
    rw [run_advance_over c k made hs, run_advance_over c l made (by rw [hands]; exact ht)]
    exact ⟨rfl, halike⟩
  cases hbegins with
  | unread => exact hover (.error _) rfl
  | unable => exact hover (.error _) rfl
  | flawed => exact hover (.ok _) rfl
  | complete => exact hover (.ok _) rfl
  | ready hfound hready =>
    rename_i e w chain p
    rw [run_advance c k hs, run_advance c l (by rw [hands]; exact ht)]
    dsimp only at hworld hworld'
    rw [hworld, hworld', hreplies]
    refine .bind (.orFault ?_ _) fun {report s₁ t₁} _ h₁ =>
      conclude_agrees c hfound.ids.1 _ report h₁
    exact ⟨halike.files, halike.clock, halike.row, halike.jobs⟩

end

/-! ### What belongs to others -/

variable {c : Config} {k : Collaborators σ} {id : String}

/-- What leads up to a plan leaves the rows of all other enrollments alone. -/
theorem begin_apart (c : Config) (handsOver : Bool) {id' : String} (ignore : Option Bool)
    (news : Option Lead) (h : id ≠ id') (s : State σ) :
    ((begin_ c handsOver id' ignore news).after s).rows.find? id = s.rows.find? id := by
  obtain ⟨res, s', hbegin, hbegins⟩ := begin_begins c handsOver id' ignore news s
  unfold Op.after
  rw [hbegin]
  cases hbegins with
  | unread => rfl
  | _ =>
    refine Enrollment.find?_modify_of_ne h ?_ s.rows
    exact refreshed_id news _

theorem jobsOf_rearm {s : State σ} {id' : String} {due : Option Moment} {t : Timers} (h : id ≠ id')
    (hset : rearm c id' due s = .ok t) : t.jobsOf id = s.timers.jobsOf id := by
  cases due with
  | none =>
    obtain rfl : s.timers.remove id' = t := Except.ok.inj hset
    exact Timers.jobsOf_remove_of_ne h s.timers
  | some due =>
    obtain ⟨⟨ms, timers⟩, harm, rfl⟩ := map_eq_ok.1 hset
    obtain ⟨at_, rfl⟩ := Timers.arm_eq_ok harm
    exact Timers.jobsOf_set_of_ne h s.timers at_

/-- **A run leaves all other enrollments alone**, and their timers. -/
theorem Invocation.apart (i : Invocation σ) (h : id ≠ i.id) :
    Alike True id i.before (i.after c k) := by
  have hk := k.reply_any
  refine ⟨i.files, i.clock, ?_, fun _ => ?_⟩
  · have hended := advance_ended c hk i
    generalize i.result c k = res at hended
    generalize i.after c k = s' at hended ⊢
    cases hended with
    | unread => rfl
    | _ =>
      refine Enrollment.find?_modify_of_ne h ?_ i.before.rows
      exact refreshed_id i.news _
  · rcases i.timers_cases (c := c) (k := k) with ⟨-, heq⟩ | ⟨report, due, -, hset, -⟩
    · rw [heq]
    · exact jobsOf_rearm h hset

/-- Deleting an enrollment leaves all others alone, and their timers. -/
theorem delete_apart {id' : String} (h : id ≠ id') (s : State σ) :
    Alike True id s ((delete id' : Op σ Bool).after s) := by
  rw [delete_after]
  refine ⟨rfl, rfl, ?_, fun _ => Timers.jobsOf_remove_of_ne h s.timers⟩
  rw [Enrollment.find?_filter, if_neg h]

end Service
end Cadence
