/-
# The service at work

A service is driven by operations from outside: leads are enrolled and advanced, timers ring, polls
wake what is due, the service stops and starts again, and time passes. `play` carries out a list of
operations.

What an operation does to enrollments, it does by running them one after the other:
`Operation.invocations` lists these runs. `Operation.turns` shows that there is nothing else to
it. From the state before to the state after there are only turns of three kinds: nothing that
concerns enrollments happens, an enrollment is made, or an enrollment is run. A property that turns
keep is kept by all operations. Only enrolling makes an enrollment (`enroll_cases`); all other
operations do nothing but run enrollments (`Operation.runs`).

Key definitions: `Operation`, `Operation.perform`, `play`, `Operation.invocations`, `Runs`, `Turns`,
`newcomer`.
Key theorems: `run_register`, `enroll_cases`, `Operation.runs`, `Operation.turns`.
-/
import Cadence.Proofs.Service.Advance
import Mathlib.Data.List.Nodup

namespace Cadence
namespace Service

open Time
open Enrollment (Row Rows)

variable {σ α : Type}

/-! ### Operations and what they run -/

/-- What can be done with a service from outside. -/
inductive Operation where
  | enroll (workflowId : String) (lead : Lead) (source : String) (overrides : Overrides)
  | advance (id : String) (ignore : Option Bool) (news : Option Lead)
  | fire (id : String)
  | wakeDue (now : Moment)
  | tick
  | start
  | stop
  | setClock (now : Moment)
  deriving Repr, DecidableEq, Inhabited

/-- Carries out an operation: the state after it. -/
def Operation.perform (c : Config) (k : Collaborators σ) : Operation → State σ → State σ
  | .enroll workflowId lead source overrides, s =>
    (Service.enroll c k workflowId lead source overrides).after s
  | .advance id ignore news, s => (Service.advance c k id ignore news).after s
  | .fire id, s => (Service.fire c k id).after s
  | .wakeDue now, s => (Service.wakeDue c k now).after s
  | .tick, s => (Service.tick c k).after s
  | .start, s => (Service.start c).after s
  | .stop, s => (Service.stop : Op σ Unit).after s
  | .setClock now, s => { s with clock := now }

/-- Carries out operations in order. -/
def play (c : Config) (k : Collaborators σ) : List Operation → State σ → State σ
  | [], s => s
  | op :: ops, s => play c k ops (op.perform c k s)

/-- The run of an enrollment whose timer rings: the timer is gone by then. -/
def ringing (id : String) (s : State σ) : Invocation σ :=
  ⟨id, none, none, { s with timers := s.timers.remove id }⟩

/-- The runs of enrollments that are woken in order, up to the first that goes wrong. -/
def firings (c : Config) (k : Collaborators σ) : List String → State σ → List (Invocation σ)
  | [], _ => []
  | id :: rest, s =>
    ringing id s :: match (fire c k id).run s with
      | (.ok _, s') => firings c k rest s'
      | (.error _, _) => []

/-- The runs of enrollments whose jobs ring, as far as they are still set. -/
def rings (c : Config) (k : Collaborators σ) : List Job → State σ → List (Invocation σ)
  | [], _ => []
  | job :: rest, s =>
    if s.timers.jobs.contains job then
      ringing job.id s :: rings c k rest ((ringing job.id s).after c k)
    else rings c k rest s

/-- The first run of an enrollment that was made. -/
def firstRun : Except Fault String × State σ → List (Invocation σ)
  | (.ok id, s) => [⟨id, none, none, s⟩]
  | (.error _, _) => []

/-- The runs of enrollments that an operation comes to, in order. -/
def Operation.invocations (c : Config) (k : Collaborators σ) :
    Operation → State σ → List (Invocation σ)
  | .enroll workflowId lead source overrides, s =>
    firstRun ((register workflowId lead source overrides).run s)
  | .advance id ignore news, s => [⟨id, ignore, news, s⟩]
  | .fire id, s => [ringing id s]
  | .wakeDue now, s =>
    match s.rows.dueAt now with
    | .ok due => firings c k due s
    | .error _ => []
  | .tick, s => rings c k (s.timers.dueJobs s.clock.assumeUtc) s
  | .start, _ | .stop, _ | .setClock _, _ => []

/-- The runs of enrollments that operations come to. -/
def invocationsOf (c : Config) (k : Collaborators σ) :
    List Operation → State σ → List (Invocation σ)
  | [], _ => []
  | op :: ops, s => op.invocations c k s ++ invocationsOf c k ops (op.perform c k s)

/-- The calls made for an enrollment while operations are carried out. -/
def callsFor (c : Config) (k : Collaborators σ) (id : String) (ops : List Operation)
    (s : State σ) : List Exchange :=
  ((invocationsOf c k ops s).filter (·.id = id)).flatMap (·.calls c k)

/-! ### Turns -/

/-- Nothing that concerns enrollments happened. -/
structure Idle (s s' : State σ) : Prop where
  files : s'.files = s.files
  clock : s'.clock = s.clock
  rows : s'.rows = s.rows

theorem Idle.refl (s : State σ) : Idle s s := ⟨rfl, rfl, rfl⟩

theorem Idle.trans {s s' s'' : State σ} (h : Idle s s') (h' : Idle s' s'') : Idle s s'' :=
  ⟨h'.files.trans h.files, h'.clock.trans h.clock, h'.rows.trans h.rows⟩

/-- An enrollment was made. -/
structure Registered (s : State σ) (e : Enrollment) (s' : State σ) : Prop where
  files : s'.files = s.files
  clock : s'.clock = s.clock
  rows : s'.rows = s.rows ++ [Row.ofEnrollment e]
  timers : s'.timers = s.timers
  fresh : s.rows.find? e.id = none
  steps : e.steps = []

/-- A new enrollment has an id of its own. -/
theorem Registered.ids {s s' : State σ} {e : Enrollment} (h : Registered s e s')
    (hids : (s.rows.map (·.id)).Nodup) : (s'.rows.map (·.id)).Nodup := by
  have hnew : e.id ∉ s.rows.map (·.id) := by
    rw [← Enrollment.find?_isSome, h.fresh]
    exact Bool.false_ne_true
  rw [h.rows, List.map_append, List.nodup_append]
  refine ⟨hids, List.nodup_singleton _, ?_⟩
  intro id hid id' hid' heq
  rw [List.map_singleton, List.mem_singleton] at hid'
  subst hid' heq
  exact hnew hid

/-- The way from one state to another by turns, with the runs of enrollments among them. -/
inductive Turns (c : Config) (k : Collaborators σ) : State σ → List (Invocation σ) → State σ → Prop
  | done (s : State σ) : Turns c k s [] s
  | idle {s s' s'' : State σ} {is : List (Invocation σ)} : Idle s s' → Turns c k s' is s'' →
      Turns c k s is s''
  | register {s s' s'' : State σ} {is : List (Invocation σ)} {e : Enrollment} : Registered s e s' →
      Turns c k s' is s'' → Turns c k s is s''
  | run {i : Invocation σ} {s'' : State σ} {is : List (Invocation σ)} :
      Turns c k (i.after c k) is s'' → Turns c k i.before (i :: is) s''

/-- The way from one state to another by runs of enrollments alone. -/
inductive Runs (c : Config) (k : Collaborators σ) : State σ → List (Invocation σ) → State σ → Prop
  | done (s : State σ) : Runs c k s [] s
  | idle {s s' s'' : State σ} {is : List (Invocation σ)} : Idle s s' → Runs c k s' is s'' →
      Runs c k s is s''
  | run {i : Invocation σ} {s'' : State σ} {is : List (Invocation σ)} :
      Runs c k (i.after c k) is s'' → Runs c k i.before (i :: is) s''

/-- The way from one state to another by waking enrollments. -/
inductive Woken (c : Config) (k : Collaborators σ) : State σ → List (Invocation σ) → State σ → Prop
  | done (s : State σ) : Woken c k s [] s
  | wake {id : String} {s s' : State σ} {is : List (Invocation σ)} :
      Woken c k ((ringing id s).after c k) is s' → Woken c k s (ringing id s :: is) s'

variable {c : Config} {k : Collaborators σ}

theorem Idle.runs {s s' : State σ} (h : Idle s s') : Runs c k s [] s' := .idle h (.done s')

theorem Invocation.runs (i : Invocation σ) : Runs c k i.before [i] (i.after c k) :=
  .run (.done _)

theorem Runs.turns {s s' : State σ} {is : List (Invocation σ)} (h : Runs c k s is s') :
    Turns c k s is s' := by
  induction h with
  | done s => exact .done s
  | idle hi _ ih => exact .idle hi ih
  | run _ ih => exact .run ih

theorem Woken.runs {s s' : State σ} {is : List (Invocation σ)} (h : Woken c k s is s') :
    Runs c k s is s' := by
  induction h with
  | done s => exact .done s
  | wake _ ih =>
    rename_i id s s' is _
    have hidle : Idle s (ringing id s).before := ⟨rfl, rfl, rfl⟩
    exact .idle hidle (.run ih)

theorem Turns.clock {s s' : State σ} {is : List (Invocation σ)} (ht : Turns c k s is s') :
    s'.clock = s.clock := by
  induction ht with
  | done => rfl
  | idle hi _ ih => exact ih.trans hi.clock
  | register ha _ ih => exact ih.trans ha.clock
  | run _ ih => exact ih.trans (Invocation.clock _)

theorem Turns.files {s s' : State σ} {is : List (Invocation σ)} (ht : Turns c k s is s') :
    s'.files = s.files := by
  induction ht with
  | done => rfl
  | idle hi _ ih => exact ih.trans hi.files
  | register ha _ ih => exact ih.trans ha.files
  | run _ ih => exact ih.trans (Invocation.files _)

/-! ### Operations go by turns -/

theorem findEnrollment_after (id : String) (s : State σ) :
    (findEnrollment id : Op σ Enrollment).after s = s := by
  unfold Op.after
  rw [run_findEnrollment]
  rcases s.rows.get id with _ | _ | _ <;> rfl

/-- The enrollment that is made for a lead. -/
def newcomer (s : State σ) (w : Workflow.Record) (lead : Lead) (source : String)
    (overrides : Overrides) : Enrollment where
  id := "enrollment-" ++ toString (s.made + 1)
  workflowId := w.id
  source
  lead := lead.normalized
  overrides
  status := .inProgress
  steps := []
  createdAt := s.clock.universal
  completedAt := none
  resumeAt := none

/-- An enrollment is made of a workflow that can be run, unless its id is taken. -/
theorem run_register {workflowId : String} {w : Workflow.Record} {chain : Chain} {s : State σ}
    (hload : s.files.load s.clock.universal workflowId = .ok (some w))
    (hline : w.definition.linearize = .ok chain) (lead : Lead) (source : String)
    (overrides : Overrides) :
    let e := newcomer s w lead source overrides
    (register workflowId lead source overrides).run s =
      if (s.rows.find? e.id).isSome then (.error .constraint, { s with made := s.made + 1 })
      else (.ok e.id, { s with made := s.made + 1, rows := s.rows ++ [Row.ofEnrollment e] }) := by
  intro e
  have hlatest : (latestWorkflow workflowId : Op σ Workflow.Record).run s = (.ok w, s) := by
    rw [run_latestWorkflow, hload]
  have hline' : (orFault (w.definition.linearize.mapError Fault.flawed) : Op σ Chain).run s =
      (.ok chain, s) := by
    rw [hline]
    rfl
  have hfresh : (freshId : Op σ String).run s = (.ok e.id, { s with made := s.made + 1 }) := rfl
  have hnow : (universalNow : Op σ Moment).run { s with made := s.made + 1 } =
      (.ok s.clock.universal, { s with made := s.made + 1 }) := rfl
  have hput : ((putRows ((s.rows.create e)) : Op σ Unit) >>= fun _ => pure e.id).run
      { s with made := s.made + 1 } = if (s.rows.find? e.id).isSome
        then (.error .constraint, { s with made := s.made + 1 })
        else (.ok e.id, { s with made := s.made + 1, rows := s.rows ++ [Row.ofEnrollment e] }) := by
    rw [run_bind, Op.after, run_putRows]
    unfold Rows.create
    by_cases hfound : (s.rows.find? e.id).isSome = true
    · rw [if_pos hfound, if_pos hfound]
    · rw [if_neg hfound, if_neg hfound]
      rfl
  unfold register
  rw [run_bind_ok hlatest, run_bind_ok hline', run_bind_ok hfresh, run_bind_ok hnow,
    run_bind_ok (run_get _)]
  exact hput

section
variable {workflowId : String} {s : State σ} (lead : Lead) (source : String) (overrides : Overrides)

/-- No enrollment is made of what cannot be loaded. -/
theorem run_register_unread {f : Fault}
    (hload : s.files.load s.clock.universal workflowId = .error f) :
    (register workflowId lead source overrides).run s = (.error f, s) := by
  have hlatest := run_latestWorkflow workflowId s
  rw [hload] at hlatest
  exact run_bind_error hlatest

/-- No enrollment is made where there is no workflow. -/
theorem run_register_missing (hload : s.files.load s.clock.universal workflowId = .ok none) :
    (register workflowId lead source overrides).run s = (.error (.noWorkflow workflowId), s) := by
  have hlatest := run_latestWorkflow workflowId s
  rw [hload] at hlatest
  exact run_bind_error hlatest

/-- No enrollment is made of a workflow that cannot be run. -/
theorem run_register_flawed {w : Workflow.Record} {flaw : Workflow.Flaw}
    (hload : s.files.load s.clock.universal workflowId = .ok (some w))
    (hline : w.definition.linearize = .error flaw) :
    (register workflowId lead source overrides).run s = (.error (.flawed flaw), s) := by
  have hlatest := run_latestWorkflow workflowId s
  rw [hload] at hlatest
  have hline' : (orFault (w.definition.linearize.mapError Fault.flawed) : Op σ Chain).run s =
      (.error (.flawed flaw), s) := by
    rw [hline]
    rfl
  exact (run_bind_ok hlatest).trans (run_bind_error hline')

end

/-- Making an enrollment makes one or does nothing. -/
theorem register_cases (workflowId : String) (lead : Lead) (source : String) (overrides : Overrides)
    (s : State σ) : ∃ res s', (register workflowId lead source overrides).run s = (res, s') ∧
      ((∃ f, res = .error f) ∧ Idle s s' ∧ s'.timers = s.timers ∨
        ∃ w, let e := newcomer s w lead source overrides
          res = .ok e.id ∧ Registered s e s') := by
  rcases hload : s.files.load s.clock.universal workflowId with f | _ | w
  · exact ⟨_, s, run_register_unread lead source overrides hload, Or.inl ⟨⟨_, rfl⟩, .refl s, rfl⟩⟩
  · exact ⟨_, s, run_register_missing lead source overrides hload, Or.inl ⟨⟨_, rfl⟩, .refl s, rfl⟩⟩
  cases hline : w.definition.linearize with
  | error flaw =>
    exact ⟨_, s, run_register_flawed lead source overrides hload hline,
      Or.inl ⟨⟨_, rfl⟩, .refl s, rfl⟩⟩
  | ok chain =>
    rw [run_register hload hline lead source overrides]
    split
    · exact ⟨_, _, rfl, Or.inl ⟨⟨_, rfl⟩, ⟨rfl, rfl, rfl⟩, rfl⟩⟩
    · rename_i hfound
      exact ⟨_, _, rfl, Or.inr ⟨w, rfl, rfl, rfl, rfl, rfl, by simpa using hfound, rfl⟩⟩

/-- Resuming an enrollment is running it. -/
theorem resume_after (id : String) (s : State σ) :
    (resume c k id).after s = (⟨id, none, none, s⟩ : Invocation σ).after c k := by
  unfold resume Invocation.after
  rcases hadv : (advance c k id none none).run s with ⟨f | r, s'⟩
  · have htry : (do let _ ← advance c k id none none : Op σ Unit).run s = (.error f, s') :=
      run_bind_error hadv
    unfold Op.after
    rw [run_tryCatch, Op.after, htry, hadv]
    cases f <;> rfl
  · have htry : (do let _ ← advance c k id none none : Op σ Unit).run s = (.ok (), s') :=
      run_bind_ok hadv
    unfold Op.after
    rw [run_tryCatch, Op.after, htry, hadv]

theorem fire_after (id : String) (s : State σ) :
    (fire c k id).after s = (ringing id s).after c k := by
  have h := resume_after (c := c) (k := k) id { s with timers := s.timers.remove id }
  unfold Op.after at h
  unfold fire Op.after
  rw [run_bind_ok (run_cancelTimer id s), h]
  rfl

theorem fireAll_woken : ∀ (ids : List String) (s : State σ),
    Woken c k s (firings c k ids s) ((fireAll c k ids).after s)
  | [], s => .done s
  | id :: rest, s => by
    have hafter := fire_after (c := c) (k := k) id s
    unfold firings fireAll
    rcases hrun : (fire c k id).run s with ⟨f | u, s'⟩
    · have hs : (ringing id s).after c k = s' := hafter.symm.trans (congrArg Prod.snd hrun)
      unfold Op.after
      rw [run_bind_error hrun, ← hs]
      exact .wake (.done _)
    · have hs : (ringing id s).after c k = s' := hafter.symm.trans (congrArg Prod.snd hrun)
      unfold Op.after
      rw [run_bind_ok hrun, ← hs]
      exact .wake (fireAll_woken rest _)

/-- Those who are attempted are the first of those whose turn it is. -/
theorem firings_initial : ∀ (ids : List String) (s : State σ),
    (firings c k ids s).map (·.id) <+: ids
  | [], _ => List.prefix_rfl
  | id :: rest, s => by
    unfold firings
    rw [List.map_cons]
    refine (List.prefix_cons_inj id).2 ?_
    split
    · exact firings_initial rest _
    · exact List.nil_prefix

theorem ringAll_woken : ∀ (jobs : List Job) (s : State σ),
    Woken c k s (rings c k jobs s) (Timers.ringAll State.timers (fun timers s => { s with timers })
      (fun id s => ((resume c k id).run s).2) jobs s).2
  | [], s => .done s
  | job :: rest, s => by
    unfold rings Timers.ringAll
    by_cases hset : s.timers.jobs.contains job = true
    · rw [if_pos hset, if_pos hset]
      have hafter : ((resume c k job.id).run { s with timers := s.timers.remove job.id }).2 =
          (ringing job.id s).after c k := resume_after job.id _
      dsimp only
      rw [hafter]
      exact .wake (ringAll_woken rest _)
    · rw [if_neg hset, if_neg hset]
      exact ringAll_woken rest s

theorem armAll_idle (now : Moment) : ∀ (jobs : List (String × Moment)) (s : State σ),
    Idle s ((armAll c now jobs : Op σ Unit).after s)
  | [], s => .refl s
  | (id, due) :: rest, s => by
    unfold armAll Op.after
    rw [run_bind, Op.after, run_armTimer]
    rcases s.timers.arm s.clock.universal c.maxDelayMs id (.until_ due now) with f | ⟨ms, timers⟩
    · exact .refl s
    · have hone : Idle s { s with timers } := ⟨rfl, rfl, rfl⟩
      exact hone.trans (armAll_idle now rest _)

/-- Enrolling a lead is making an enrollment and running it. -/
theorem enroll_after {workflowId : String} {lead : Lead} {source : String} {overrides : Overrides}
    {s s' : State σ} {id : String}
    (hreg : (register workflowId lead source overrides).run s = (.ok id, s')) :
    (enroll c k workflowId lead source overrides).after s =
      (⟨id, none, none, s'⟩ : Invocation σ).after c k := by
  have hafter : ((do
      let report ← advance c k id none none
      return (← findEnrollment id, report) : Op σ (Enrollment × Report)).run s').2 =
        (⟨id, none, none, s'⟩ : Invocation σ).after c k := by
    unfold Invocation.after
    rw [run_bind]
    rcases hadv : (advance c k id none none).run s' with ⟨f | r, s''⟩
    · rfl
    · have hs : (advance c k id none none).after s' = s'' := congrArg Prod.snd hadv
      have hfind := findEnrollment_after id s''
      dsimp only
      rw [hs, run_bind]
      rcases hfound : (findEnrollment id : Op σ Enrollment).run s'' with ⟨f | found, s3⟩
      · exact hfind
      · exact hfind
  unfold enroll Op.after
  rw [run_bind_ok hreg]
  exact hafter

/-- **Enrolling a lead makes an enrollment and runs it once**, or does nothing. -/
theorem enroll_cases (workflowId : String) (lead : Lead) (source : String) (overrides : Overrides)
    (s : State σ) :
    let op := Operation.enroll workflowId lead source overrides
    (op.invocations c k s = [] ∧ Idle s (op.perform c k s) ∧
      (op.perform c k s).timers = s.timers) ∨ ∃ w s',
      let i : Invocation σ := ⟨(newcomer s w lead source overrides).id, none, none, s'⟩
      Registered s (newcomer s w lead source overrides) s' ∧ op.invocations c k s = [i] ∧
        op.perform c k s = i.after c k := by
  intro op
  obtain ⟨res, s', hreg, hend⟩ := register_cases workflowId lead source overrides s
  have hinv : op.invocations c k s = firstRun (res, s') := congrArg firstRun hreg
  rcases hend with ⟨⟨f, rfl⟩, hidle, htimers⟩ | ⟨w, rfl, hreg'⟩
  · have hafter : op.perform c k s = s' := by
      show (enroll c k workflowId lead source overrides).after s = s'
      unfold enroll Op.after
      rw [run_bind_error hreg]
    rw [hafter]
    exact Or.inl ⟨hinv, hidle, htimers⟩
  · exact Or.inr ⟨w, s', hreg', hinv, enroll_after hreg⟩

theorem wakeDue_invocations {now : Moment} {s : State σ} {due : List String}
    (h : s.rows.dueAt now = .ok due) :
    (Operation.wakeDue now).invocations c k s = firings c k due s := by
  simp only [Operation.invocations, h]

theorem wakeDue_invocations_error {now : Moment} {s : State σ} {f : Fault}
    (h : s.rows.dueAt now = .error f) : (Operation.wakeDue now).invocations c k s = [] := by
  simp only [Operation.invocations, h]

/-- **Operations that wake enrollments** do nothing else. -/
theorem Operation.woken (op : Operation) (s : State σ)
    (hop : op = .tick ∨ (∃ id, op = .fire id) ∨ ∃ now, op = .wakeDue now) :
    Woken c k s (op.invocations c k s) (op.perform c k s) := by
  rcases hop with rfl | ⟨id, rfl⟩ | ⟨now, rfl⟩
  · exact ringAll_woken (c := c) (k := k) _ s
  · have h : Woken c k s [ringing id s] ((ringing id s).after c k) := .wake (.done _)
    rw [← fire_after] at h
    exact h
  · have hperform : (Operation.wakeDue now).perform c k s =
        (Service.wakeDue c k now).after s := rfl
    rw [hperform]
    unfold Service.wakeDue Op.after
    rw [run_bind_ok (run_get s), run_bind, Op.after, run_orFault]
    cases hdue : s.rows.dueAt now with
    | error f =>
      rw [wakeDue_invocations_error hdue]
      exact .done s
    | ok due =>
      have h : Woken c k s (firings c k due s) ((fireAll c k due).after s) := fireAll_woken due s
      rw [wakeDue_invocations hdue]
      dsimp only
      rw [run_bind]
      unfold Op.after at h ⊢
      rcases hrun : (fireAll c k due).run s with ⟨f | u, s'⟩ <;> rw [hrun] at h <;> exact h

theorem start_idle (s : State σ) : Idle s ((start c : Op σ Nat).after s) := by
  have h1 : Idle s { s with timers := s.timers.start } := ⟨rfl, rfl, rfl⟩
  unfold start Op.after
  rw [run_bind_ok (run_modify _ s), run_bind_ok (run_get _), run_bind, Op.after, run_orFault]
  cases hsched : s.rows.scheduled with
  | error f => exact h1
  | ok jobs =>
    have h2 := armAll_idle (c := c) s.clock jobs { s with timers := s.timers.start }
    dsimp only
    rw [run_bind]
    unfold Op.after at h2 ⊢
    rcases hrun : (armAll c s.clock jobs : Op σ Unit).run { s with timers := s.timers.start }
      with ⟨f | u, s'⟩ <;> rw [hrun] at h2 <;> exact h1.trans h2

/-- **Operations run enrollments**, and besides do nothing to them. Enrolling makes one first, and
setting the clock is none of this. -/
theorem Operation.runs (op : Operation) (s : State σ) (hop : ∀ now, op ≠ .setClock now)
    (hop' : ∀ workflowId lead source overrides, op ≠ .enroll workflowId lead source overrides) :
    Runs c k s (op.invocations c k s) (op.perform c k s) := by
  cases op with
  | enroll workflowId lead source overrides => exact absurd rfl (hop' _ _ _ _)
  | advance id ignore news =>
    exact Invocation.runs (c := c) (k := k) ⟨id, ignore, news, s⟩
  | fire id => exact (Operation.woken _ s (Or.inr (Or.inl ⟨id, rfl⟩))).runs
  | wakeDue now => exact (Operation.woken _ s (Or.inr (Or.inr ⟨now, rfl⟩))).runs
  | tick => exact (Operation.woken _ s (Or.inl rfl)).runs
  | start => exact (start_idle s).runs
  | stop =>
    have h : Idle s ((Service.stop : Op σ Unit).after s) := ⟨rfl, rfl, rfl⟩
    exact h.runs
  | setClock now => exact absurd rfl (hop now)

/-- **Whatever an operation does to enrollments, it does by turns.** Only setting the clock is none
of them. -/
theorem Operation.turns (op : Operation) (s : State σ) (hop : ∀ now, op ≠ .setClock now) :
    Turns c k s (op.invocations c k s) (op.perform c k s) := by
  by_cases hop' : ∃ workflowId lead source overrides, op = .enroll workflowId lead source overrides
  · obtain ⟨workflowId, lead, source, overrides, rfl⟩ := hop'
    rcases enroll_cases (c := c) (k := k) workflowId lead source overrides s with
      ⟨hinv, hidle, -⟩ | ⟨w, s', hreg, hinv, hafter⟩
    · rw [hinv]
      exact hidle.runs.turns
    · rw [hinv, hafter]
      exact .register hreg (Invocation.runs (c := c) (k := k)
        ⟨(newcomer s w lead source overrides).id, none, none, s'⟩).turns
  · exact (op.runs s hop fun workflowId lead source overrides heq =>
      hop' ⟨workflowId, lead, source, overrides, heq⟩).turns

end Service
end Cadence
