/-
# Where faults come from that clients are told of

An operation that reads changes nothing; an operation is quiet if no fault of it is one that clients
are told of; and it is careful if such a fault leaves everything as it was but for the timers. What
follows reading may do what it likes, as long as it is careful, and what follows a careful operation
must be quiet.

Advancing an enrollment ends with such a fault in two ways only: there is no such enrollment, or its
workflow is not found, and by then the news about its lead are stored (`advance_told`). So waking all
enrollments that are due stops at the first whose workflow is not found, and those before it have been
run (`wakeDue_told`). Enrolling a lead is refused before anything is done, if workflows can be found by
their own ids (`enroll_told`).

Key definitions: `Op.Reads`, `Op.Quiet`, `Untouched`, `Op.Careful`.
Key theorems: `Op.Quiet.fault_of_bind`, `advance_told`, `wakeDue_told`, `enroll_told`.
-/
import Cadence.Proofs.Service.Play
import Cadence.Proofs.Untold

namespace Cadence
namespace Service

open Enrollment (Row Rows)
open Time

variable {σ α β : Type}

/-! ### Operations that read -/

theorem after_bind (x : Op σ α) (f : α → Op σ β) (s : State σ) :
    (x >>= f).after s = match (x.run s).1 with
      | .ok a => (f a).after (x.after s)
      | .error _ => x.after s := by
  unfold Op.after
  rw [run_bind]
  cases (x.run s).1 <;> rfl

/-- An operation that changes nothing. -/
def Op.Reads (op : Op σ α) : Prop := ∀ s, op.after s = s

namespace Op.Reads

theorem pure (a : α) : (Pure.pure a : Op σ α).Reads := fun _ => rfl

theorem throw (f : Fault) : (MonadExcept.throw f : Op σ α).Reads := fun _ => rfl

theorem get : (MonadState.get : Op σ (State σ)).Reads := fun _ => rfl

theorem orFault (r : Except Fault α) : (Service.orFault r : Op σ α).Reads := by
  intro s
  unfold Op.after
  rw [run_orFault]

theorem bind {x : Op σ α} {f : α → Op σ β} (hx : x.Reads) (hf : ∀ a, (f a).Reads) :
    (x >>= f).Reads := by
  intro s
  rw [after_bind, hx s]
  split
  · exact hf _ s
  · rfl

end Op.Reads

theorem universalNow_reads : (universalNow : Op σ Moment).Reads := fun _ => rfl

theorem findEnrollment_reads (id : String) : (findEnrollment id : Op σ Enrollment).Reads :=
  findEnrollment_after id

theorem latestWorkflow_reads (id : String) : (latestWorkflow id : Op σ Workflow.Record).Reads := by
  intro s
  unfold Op.after
  rw [run_latestWorkflow]
  rcases s.files.load s.clock.universal id with _ | _ | _ <;> rfl

theorem describe_reads (id : String) : (describe id : Op σ Enrollment.Snapshot).Reads := by
  unfold describe
  refine (findEnrollment_reads id).bind fun e => Op.Reads.get.bind fun s => ?_
  split <;> exact .pure _

/-! ### Operations that are quiet -/

/-- An operation that ends with no fault that clients are told of. -/
def Op.Quiet (op : Op σ α) : Prop := ∀ s, Untold (op.run s).1

namespace Op.Quiet

theorem not_told {op : Op σ α} (hq : op.Quiet) {s s' : State σ} {f : Fault}
    (hrun : op.run s = (.error f, s')) (ht : f.isTold = true) : False := by
  have hno := hq s f (congrArg Prod.fst hrun)
  rw [ht] at hno
  cases hno

theorem pure (a : α) : (Pure.pure a : Op σ α).Quiet := fun _ => .ok a

theorem get : (MonadState.get : Op σ (State σ)).Quiet := fun s => .ok s

theorem orFault {r : Except Fault α} (hr : Untold r) : (Service.orFault r : Op σ α).Quiet := by
  intro s
  rw [run_orFault]
  exact hr

/-- What follows need only be quiet for the values that come before it. -/
theorem bind_of {x : Op σ α} {f : α → Op σ β} (hx : x.Quiet)
    (hf : ∀ a s s', x.run s = (.ok a, s') → (f a).Quiet) : (x >>= f).Quiet := by
  intro s
  rw [run_bind]
  rcases hrun : x.run s with ⟨f' | a, s'⟩
  · exact .error (hx s f' (congrArg Prod.fst hrun))
  · exact hf a s s' hrun _

theorem bind {x : Op σ α} {f : α → Op σ β} (hx : x.Quiet) (hf : ∀ a, (f a).Quiet) :
    (x >>= f).Quiet := hx.bind_of fun a _ _ _ => hf a

/-- A fault that clients are told of is one of the first operation if the second is quiet. -/
theorem fault_of_bind {x : Op σ α} {f : α → Op σ β} {s s' : State σ} {e : Fault}
    (hf : ∀ a, (f a).Quiet) (hrun : (x >>= f).run s = (.error e, s')) (ht : e.isTold = true) :
    x.run s = (.error e, s') := by
  rcases run_bind_eq_error hrun with hfirst | ⟨a, s₁, -, hsecond⟩
  · exact hfirst
  · exact ((hf a).not_told hsecond ht).elim

end Op.Quiet

theorem putRows_quiet {r : Except Fault Rows} (hr : Untold r) : (putRows r : Op σ Unit).Quiet := by
  intro s
  rw [run_putRows]
  cases r with
  | error f => exact .error (hr f rfl)
  | ok rows => exact .ok ()

theorem armTimer_quiet (c : Config) (id : String) (delay : Delay) :
    (armTimer c id delay : Op σ Int).Quiet := by
  intro s
  rw [run_armTimer]
  rcases harm : s.timers.arm s.clock.universal c.maxDelayMs id delay with f | ⟨ms, timers⟩
  · exact .error (Timers.arm_untold _ _ _ _ _ f harm)
  · exact .ok ms

theorem recordRun_quiet (id : String) (steps : List Step) (status : Enrollment.Status)
    (completedAt resumeAt : Option Moment) :
    (recordRun id steps status completedAt resumeAt : Op σ Unit).Quiet := by
  unfold recordRun
  refine Op.Quiet.get.bind fun s => (putRows_quiet (Rows.recordRun_untold _ _ _ _ _ _)).bind fun _ => ?_
  split
  · exact fun _ => .ok ()
  · exact .pure ()

theorem dueTime_untold (now : Moment) (due : Option Due) : Untold (dueTime now due) := by
  unfold dueTime
  split
  · exact .ok now
  · split
    · exact .ok _
    · exact .error rfl
  · exact .error rfl

/-- Recording the report of a run is quiet. -/
theorem conclude_quiet (c : Config) (e : Enrollment) (now : Moment) (r : Report) :
    (conclude c e now r : Op σ Report).Quiet := by
  unfold conclude
  dsimp only
  split
  · exact (recordRun_quiet _ _ _ _ _).bind fun _ => .pure r
  · split
    · exact (Op.Quiet.orFault (dueTime_untold _ _)).bind fun due =>
        (recordRun_quiet _ _ _ _ _).bind fun _ => Op.Quiet.get.bind fun s =>
          (armTimer_quiet _ _ _).bind fun _ => .pure r
    · exact (recordRun_quiet _ _ _ _ _).bind fun _ => .pure r

/-- Running a workflow with collaborators is quiet. -/
theorem carryOut_quiet (k : Collaborators σ) (plan : Plan α) : (carryOut k plan).Quiet :=
  fun _ => .ok _

theorem report_untold {k : Collaborators σ} {w : Runnable} {o : RunOptions} {s s' : State σ}
    {made : Except Fault Report}
    (hrun : (carryOut k (w.run k.handsOver o)).run s = (.ok made, s')) : Untold made := by
  have hmade : made = ((w.run k.handsOver o).run k s.world).1 :=
    (Except.ok.inj (congrArg Prod.fst hrun)).symm
  have hcomes := Plan.comesTo_run k.reply_any (w.run k.handsOver o) s.world
  rw [← hmade] at hcomes
  exact run_untold hcomes

/-! ### Operations that are careful -/

/-- Nothing but the timers differs. -/
def Untouched (s s' : State σ) : Prop := ∃ timers, s' = { s with timers }

theorem Untouched.refl (s : State σ) : Untouched s s := ⟨s.timers, rfl⟩

/-- An operation that leaves everything but the timers as it was where it ends with a fault that
clients are told of. -/
def Op.Careful (op : Op σ α) : Prop :=
  ∀ s f s', op.run s = (.error f, s') → f.isTold = true → Untouched s s'

namespace Op

theorem Reads.careful {op : Op σ α} (h : op.Reads) : op.Careful := by
  intro s f s' hrun _
  have hs : op.after s = s' := congrArg Prod.snd hrun
  rw [← hs, h s]
  exact .refl s

theorem Quiet.careful {op : Op σ α} (h : op.Quiet) : op.Careful :=
  fun _ _ _ hrun ht => (h.not_told hrun ht).elim

/-- Something careful behind something that reads is careful. -/
theorem Reads.bind_careful {x : Op σ α} {f : α → Op σ β} (hx : x.Reads)
    (hf : ∀ a, (f a).Careful) : (x >>= f).Careful := by
  intro s e s' hrun ht
  rcases run_bind_eq_error hrun with hfirst | ⟨a, s₁, hfirst, hsecond⟩
  · exact hx.careful s e s' hfirst ht
  · have hsame : s₁ = s := (congrArg Prod.snd hfirst).symm.trans (hx s)
    rw [hsame] at hsecond
    exact hf a s e s' hsecond ht

/-- Something quiet behind something careful is careful. -/
theorem Careful.bind_quiet {x : Op σ α} {f : α → Op σ β} (hx : x.Careful)
    (hf : ∀ a, (f a).Quiet) : (x >>= f).Careful :=
  fun s e s' hrun ht => hx s e s' (Quiet.fault_of_bind hf hrun ht) ht

end Op

/-- A save that fails changes nothing. -/
theorem saveWorkflow_careful (r : Workflow.Record) :
    (saveWorkflow r : Op σ Workflow.Record).Careful := by
  intro s f s' hrun _
  rw [run_saveWorkflow] at hrun
  cases hsave : s.files.save s.clock.universal r with
  | error e =>
    rw [hsave] at hrun
    cases hrun
    exact .refl s
  | ok p =>
    rw [hsave] at hrun
    cases hrun

/-! ### Advancing -/

theorem find?_of_get {rows : Rows} {id : String} (h : rows.get id = .ok none) :
    rows.find? id = none := by
  unfold Rows.get at h
  split at h
  · assumption
  · obtain ⟨e, -, h⟩ := bind_eq_ok.1 h
    cases h

/-- Of a lookup clients are told if there is no such enrollment. -/
theorem findEnrollment_told {id : String} {s s' : State σ} {f : Fault}
    (hrun : (findEnrollment id : Op σ Enrollment).run s = (.error f, s')) (ht : f.isTold = true) :
    f = .noEnrollment id ∧ s.rows.find? id = none := by
  rw [run_findEnrollment] at hrun
  rcases hget : s.rows.get id with e | _ | e <;> rw [hget] at hrun <;> cases hrun
  · exact absurd ht (by rw [Rows.get_untold _ _ _ hget]; decide)
  · exact ⟨rfl, find?_of_get hget⟩

/-- So it is where an enrollment is to be shown. -/
theorem describe_told {id : String} {s s' : State σ} {f : Fault}
    (hrun : (describe id : Op σ Enrollment.Snapshot).run s = (.error f, s')) (ht : f.isTold = true) :
    s.rows.find? id = none := by
  unfold describe at hrun
  refine (findEnrollment_told (Op.Quiet.fault_of_bind ?_ hrun ht) ht).2
  intro e
  refine Op.Quiet.get.bind fun s => ?_
  split <;> exact .pure _

/-- **Before collaborators are asked, clients are told of two things**: there is no such enrollment,
or its workflow is not found. The news about the lead are stored by then. -/
theorem begin_told {c : Config} {h : Bool} {id : String} {ignore : Option Bool}
    {news : Option Lead} {s s' : State σ} {f : Fault}
    (hrun : (begin_ c h id ignore news).run s = (.error f, s')) (ht : f.isTold = true) :
    (f = .noEnrollment id ∧ s.rows.find? id = none ∧ s' = s) ∨
      ∃ r e, Found s id news r e ∧
        s.files.load s.clock.universal e.workflowId = .ok none ∧
        f = .noWorkflow e.workflowId ∧ s' = told id news e s := by
  unfold begin_ at hrun
  rcases run_getUpdated id news s with ⟨f', hget, -⟩ | ⟨r, e, hfound, hget⟩
  · rw [run_bind_error hget] at hrun
    cases hrun
    unfold getUpdated at hget
    rcases run_bind_eq_error hget with hfind | ⟨e, s₁, -, hnews⟩
    · obtain ⟨hf, hnone⟩ := findEnrollment_told hfind ht
      exact Or.inl ⟨hf, hnone, rfl⟩
    · cases news <;> cases hnews
  · have hload : (told id news e s).files.load (told id news e s).clock.universal e.workflowId =
        s.files.load s.clock.universal e.workflowId := rfl
    rw [run_bind_ok hget, run_bind, Op.after, run_latestWorkflow, hload] at hrun
    rcases hw : s.files.load s.clock.universal e.workflowId with f' | _ | w <;> rw [hw] at hrun
    · cases hrun
      exact absurd ht (by rw [Workflow.Files.load_untold _ _ _ _ hw]; decide)
    · cases hrun
      exact Or.inr ⟨r, e, hfound, hw, rfl, rfl⟩
    · dsimp only at hrun
      refine (Op.Quiet.not_told ?_ hrun ht).elim
      refine Op.Quiet.get.bind fun s => ?_
      split
      · exact (recordRun_quiet _ _ _ _ _).bind fun _ => .pure _
      · refine (Op.Quiet.orFault (resumption_untold _ _)).bind fun p => ?_
        split
        · exact (recordRun_quiet _ _ _ _ _).bind fun _ => .pure _
        · exact .pure _

/-- **Advancing an enrollment ends with a fault that clients are told of in two ways**: there is no
such enrollment, or its workflow is not found. Then the news about the lead are stored, and nothing else
is done. -/
theorem advance_told {c : Config} {k : Collaborators σ} {id : String} {ignore : Option Bool}
    {news : Option Lead} {s s' : State σ} {f : Fault}
    (hrun : (advance c k id ignore news).run s = (.error f, s')) (ht : f.isTold = true) :
    (f = .noEnrollment id ∧ s.rows.find? id = none ∧ s' = s) ∨
      ∃ r e, Found s id news r e ∧
        s.files.load s.clock.universal e.workflowId = .ok none ∧
        f = .noWorkflow e.workflowId ∧ s' = told id news e s := by
  unfold advance at hrun
  obtain ⟨res, s₁, hbegin, hbegins⟩ := begin_begins c k.handsOver id ignore news s
  cases res with
  | error f' =>
    rw [run_bind_error hbegin] at hrun
    cases hrun
    exact begin_told hbegin ht
  | ok b =>
    rw [run_bind_ok hbegin] at hrun
    refine (Op.Quiet.not_told ?_ hrun ht).elim
    cases hbegins with
    | flawed | complete => exact .pure _
    | ready =>
      exact (carryOut_quiet k _).bind_of fun made s s' hmade =>
        (Op.Quiet.orFault (report_untold hmade)).bind fun r => conclude_quiet _ _ _ _

/-- An enrollment that was advanced is still there. -/
theorem advance_present {c : Config} {k : Collaborators σ} {i : Invocation σ} {r : Report}
    (h : i.result c k = .ok r) : ((i.after c k).rows.find? i.id).isSome = true := by
  have hbefore : (i.before.rows.find? i.id).isSome = true := by
    have hended := advance_ended c k.reply_any i
    rw [h] at hended
    generalize i.after c k = s at hended
    generalize hres : (Except.ok r : Except Fault Report) = res at hended
    cases hended with
    | unread | unable | faulted | lost => cases hres
    | flawed hfound | complete hfound | recorded hfound =>
      rw [hfound.row]
      rfl
  rw [Enrollment.find?_isSome] at hbefore ⊢
  rwa [i.ids]

/-! ### Waking enrollments -/

/-- An enrollment that can be read, but whose workflow is not found. -/
def Orphaned (s : State σ) (id : String) : Prop :=
  ∃ r e, Found s id none r e ∧ s.files.load s.clock.universal e.workflowId = .ok none

variable {c : Config} {k : Collaborators σ}

/-- Waking one enrollment ends with a fault that clients are told of if its workflow is not found. Only
its timer is gone then. -/
theorem fire_told {id : String} {s s' : State σ} {f : Fault}
    (hrun : (fire c k id).run s = (.error f, s')) (ht : f.isTold = true) :
    Orphaned s id ∧ s' = { s with timers := s.timers.remove id } := by
  unfold fire resume at hrun
  rw [run_bind_ok (run_cancelTimer id s), run_tryCatch] at hrun
  rcases hadv : (advance c k id none none).run { s with timers := s.timers.remove id } with
    ⟨f' | r, s₁⟩
  · have hfirst : (do let _ ← advance c k id none none : Op σ Unit).run
        { s with timers := s.timers.remove id } = (.error f', s₁) := run_bind_error hadv
    unfold Op.after at hrun
    rw [hfirst] at hrun
    have hthrown : f' = f ∧ s₁ = s' ∧ ∀ id, f' ≠ .noEnrollment id := by
      cases f' <;> cases hrun <;> exact ⟨rfl, rfl, by rintro id ⟨⟩⟩
    obtain ⟨rfl, rfl, hne⟩ := hthrown
    rcases advance_told hadv ht with ⟨hf, -, -⟩ | ⟨r, e, hfound, hload, -, hs⟩
    · exact absurd hf (hne id)
    · rw [told_none] at hs
      exact ⟨⟨r, e, ⟨hfound.row, hfound.read⟩, hload⟩, hs⟩
  · have hfirst : (do let _ ← advance c k id none none : Op σ Unit).run
        { s with timers := s.timers.remove id } = (.ok (), s₁) := run_bind_ok hadv
    unfold Op.after at hrun
    rw [hfirst] at hrun
    cases hrun

/-- **Waking several enrollments stops at the first whose workflow is not found**; those before it have
been woken. By recursion on the ids. -/
theorem fireAll_told : ∀ {ids : List String} {s s' : State σ} {f : Fault},
    (fireAll c k ids).run s = (.error f, s') → f.isTold = true →
    ∃ woken id rest s₁, ids = woken ++ id :: rest ∧ (fireAll c k woken).run s = (.ok (), s₁) ∧
      Orphaned s₁ id ∧ s' = { s₁ with timers := s₁.timers.remove id }
  | [], s, s', f, hrun, _ => by cases hrun
  | id :: rest, s, s', f, hrun, ht => by
    unfold fireAll at hrun
    rcases run_bind_eq_error hrun with hfire | ⟨u, s₁, hfire, hrest⟩
    · obtain ⟨horphan, hs⟩ := fire_told hfire ht
      exact ⟨[], id, rest, s, rfl, rfl, horphan, hs⟩
    · obtain ⟨woken, id', rest', s₂, hids, hwoken, horphan, hs⟩ := fireAll_told hrest ht
      refine ⟨id :: woken, id', rest', s₂, congrArg (id :: ·) hids, ?_, horphan, hs⟩
      unfold fireAll
      exact (run_bind_ok hfire).trans hwoken

/-- Waking all enrollments that are due at a time. -/
theorem wakeDue_told {now : Moment} {s s' : State σ} {f : Fault}
    (hrun : (wakeDue c k now).run s = (.error f, s')) (ht : f.isTold = true) :
    ∃ woken id rest s₁, s.rows.dueAt now = .ok (woken ++ id :: rest) ∧
      (fireAll c k woken).run s = (.ok (), s₁) ∧ Orphaned s₁ id ∧
      s' = { s₁ with timers := s₁.timers.remove id } := by
  unfold wakeDue at hrun
  rw [run_bind_ok (run_get s), run_bind, Op.after, run_orFault] at hrun
  cases hdue : s.rows.dueAt now with
  | error e =>
    rw [hdue] at hrun
    cases hrun
    exact absurd ht (by rw [Rows.dueAt_untold _ _ _ hdue]; decide)
  | ok due =>
    rw [hdue] at hrun
    obtain ⟨woken, id, rest, s₁, rfl, hwoken, horphan, hs⟩ :=
      fireAll_told (Op.Quiet.fault_of_bind (fun _ => .pure _) hrun ht) ht
    exact ⟨woken, id, rest, s₁, rfl, hwoken, horphan, hs⟩

/-! ### Enrolling -/

/-- An enrollment that is made is made of a workflow that is loaded. -/
theorem register_ok {workflowId source id : String} {lead : Lead} {overrides : Overrides}
    {s s' : State σ} (hrun : (register workflowId lead source overrides).run s = (.ok id, s')) :
    ∃ w, s.files.load s.clock.universal workflowId = .ok (some w) ∧
      id = (newcomer s w lead source overrides).id ∧
      Registered s (newcomer s w lead source overrides) s' := by
  rcases hload : s.files.load s.clock.universal workflowId with f | _ | w
  · rw [run_register_unread lead source overrides hload] at hrun
    cases hrun
  · rw [run_register_missing lead source overrides hload] at hrun
    cases hrun
  · refine ⟨w, rfl, ?_⟩
    cases hline : w.definition.linearize with
    | error flaw =>
      rw [run_register_flawed lead source overrides hload hline] at hrun
      cases hrun
    | ok chain =>
      rw [run_register hload hline lead source overrides] at hrun
      split at hrun
      · cases hrun
      · rename_i hfree
        cases hrun
        exact ⟨rfl, rfl, rfl, rfl, rfl, by simpa using hfree, rfl⟩

/-- Why an enrollment is not made, as far as clients are told of it. -/
inductive Refused (s : State σ) (workflowId : String) : Prop
  | missing : s.files.load s.clock.universal workflowId = .ok none → Refused s workflowId
  | flawed {w : Workflow.Record} {flaw : Workflow.Flaw} :
      s.files.load s.clock.universal workflowId = .ok (some w) →
      w.definition.linearize = .error flaw → Refused s workflowId

/-- Where clients are told why no enrollment is made, nothing is done. -/
theorem register_told {workflowId source : String} {lead : Lead} {overrides : Overrides}
    {s s' : State σ} {f : Fault}
    (hrun : (register workflowId lead source overrides).run s = (.error f, s'))
    (ht : f.isTold = true) : s' = s ∧ Refused s workflowId := by
  rcases hload : s.files.load s.clock.universal workflowId with f' | _ | w
  · rw [run_register_unread lead source overrides hload] at hrun
    cases hrun
    exact absurd ht (by rw [Workflow.Files.load_untold _ _ _ _ hload]; decide)
  · rw [run_register_missing lead source overrides hload] at hrun
    cases hrun
    exact ⟨rfl, .missing hload⟩
  · cases hline : w.definition.linearize with
    | error flaw =>
      rw [run_register_flawed lead source overrides hload hline] at hrun
      cases hrun
      exact ⟨rfl, .flawed hload hline⟩
    | ok chain =>
      rw [run_register hload hline lead source overrides] at hrun
      split at hrun <;> cases hrun
      cases ht

/-- The row of an enrollment that was made. -/
theorem Registered.find? {s s' : State σ} {e : Enrollment} (h : Registered s e s') :
    s'.rows.find? e.id = some (Row.ofEnrollment e) := by
  have hnone : List.find? (fun r : Row => decide (r.id = e.id)) s.rows = none := h.fresh
  rw [h.rows]
  unfold Rows.find?
  rw [List.find?_append, hnone, Option.none_or, List.find?_cons_of_pos (by simp [Row.ofEnrollment])]

/-- **Enrolling a lead is refused before anything is done**, as far as clients are told why, if the
workflow that is loaded can be found by its own id. -/
theorem enroll_told {workflowId source : String} {lead : Lead} {overrides : Overrides}
    {s s' : State σ} {f : Fault}
    (hown : ∀ w, s.files.load s.clock.universal workflowId = .ok (some w) →
      s.files.load s.clock.universal w.id ≠ .ok none)
    (hrun : (enroll c k workflowId lead source overrides).run s = (.error f, s'))
    (ht : f.isTold = true) : s' = s ∧ Refused s workflowId := by
  unfold enroll at hrun
  rcases run_bind_eq_error hrun with hreg | ⟨id, s₁, hreg, hrun⟩
  · exact register_told hreg ht
  obtain ⟨w, hload, rfl, hmade⟩ := register_ok hreg
  rcases run_bind_eq_error hrun with hadv | ⟨report, s₂, hadv, hrun⟩
  · rcases advance_told hadv ht with ⟨-, hnone, -⟩ | ⟨r, e, hfound, hlost, -, -⟩
    · rw [hmade.find?] at hnone
      cases hnone
    · have hrow := hfound.row
      rw [hmade.find?] at hrow
      have hid : e.workflowId = w.id := by
        rw [hfound.ids.2, ← Option.some.inj hrow]
        rfl
      rw [hid, hmade.files, hmade.clock] at hlost
      exact absurd hlost (hown w hload)
  · have hfind := Op.Quiet.fault_of_bind (fun _ => .pure _) hrun ht
    have hthere := advance_present (c := c) (k := k)
      (i := ⟨(newcomer s w lead source overrides).id, none, none, s₁⟩) (congrArg Prod.fst hadv)
    unfold Invocation.after Op.after at hthere
    rw [hadv, (findEnrollment_told hfind ht).2] at hthere
    cases hthere

end Service
end Cadence
