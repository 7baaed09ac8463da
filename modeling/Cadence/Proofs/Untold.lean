/-
# Faults that clients are not told of

Clients are told that a workflow or an enrollment is not there, and that a definition cannot be run.
All other faults are internal to them. What is done on the way to an answer seldom ends with a fault
that clients are told of: neither running a workflow does, whatever the collaborators reply, nor
looking up, reading or writing what is stored, nor setting a timer, nor showing a report. So it can be
said where each such fault comes from.

Key definitions: `Fault.isTold`, `Untold`.
Key theorems: `Untold.bind`, `run_untold`, `load_untold`.
-/
import Cadence.Proofs.Run.Resume
import Cadence.Run.Markdown
import Cadence.Timer.Timers
import Cadence.Workflow.Files

namespace Cadence

open Time

/-- Whether clients are told of a fault: something is not there, or a definition cannot be run. -/
def Fault.isTold : Fault → Bool
  | .flawed _ | .noWorkflow _ | .noEnrollment _ => true
  | _ => false

/-- A result that is no fault that clients are told of. -/
def Untold {α : Type} (x : Except Fault α) : Prop := ∀ f, x = .error f → f.isTold = false

namespace Untold

variable {α β : Type}

theorem ok (a : α) : Untold (.ok a) := by
  intro f h
  cases h

theorem error {f : Fault} (h : f.isTold = false) : Untold (.error f : Except Fault α) := by
  intro f' h'
  cases h'
  exact h

theorem bind {x : Except Fault α} {g : α → Except Fault β} (hx : Untold x)
    (hg : ∀ a, Untold (g a)) : Untold (x >>= g) := by
  cases x with
  | error f => exact error (hx f rfl)
  | ok a => exact hg a

theorem map {x : Except Fault α} (hx : Untold x) (g : α → β) : Untold (x.map g) := by
  cases x with
  | error f => exact error (hx f rfl)
  | ok a => exact ok (g a)

theorem mapM {g : α → Except Fault β} (hg : ∀ a, Untold (g a)) : ∀ l : List α, Untold (l.mapM g)
  | [] => by
    rw [List.mapM_nil]
    exact ok []
  | a :: l => by
    rw [List.mapM_cons]
    exact (hg a).bind fun b => (mapM hg l).bind fun bs => ok (b :: bs)

theorem filterMapM {g : α → Except Fault (Option β)} (hg : ∀ a, Untold (g a)) :
    ∀ l : List α, Untold (l.filterMapM g)
  | [] => by
    rw [List.filterMapM_nil]
    exact ok []
  | a :: l => by
    rw [List.filterMapM_cons]
    refine (hg a).bind fun o => ?_
    cases o with
    | none => exact filterMapM hg l
    | some b => exact (filterMapM hg l).bind fun bs => ok (b :: bs)

end Untold

/-- A document that was written, or not. -/
theorem ofWritten_untold (j : Option Json) : Untold (Fault.ofWritten j) := by
  cases j with
  | none => exact .error rfl
  | some j => exact .ok j

/-! ### Runs -/

theorem ofZone_untold (f : ZoneFault) : (Fault.ofZone f).isTold = false := by
  cases f <;> rfl

namespace Workflow

theorem zoneOr_untold (default : String) (name : Option String) : Untold (zoneOr default name) := by
  have hdefault : Untold ((Zones.lookup default).mapError Fault.ofZone) := by
    cases Zones.lookup default with
    | error f => exact .error (ofZone_untold f)
    | ok z => exact .ok z
  unfold zoneOr
  dsimp only
  split
  · exact .ok _
  · exact .error rfl
  · exact .error rfl
  · exact .error rfl
  · exact .error rfl
  · exact hdefault

theorem SendWindow.allows_untold (default : String) (window : Option SendWindow) (m : Moment) :
    Untold (allows default window m) := by
  unfold allows
  split
  · exact .ok true
  · split
    · exact .ok true
    · refine (zoneOr_untold _ _).bind fun zone => ?_
      split
      · exact .error rfl
      · exact .ok _

end Workflow

section
variable {c : Context} {n : Chain.Node} {h : Bool} {P : Reply → Prop}

theorem mayRun_untold : Untold (mayRun c n) := by
  unfold mayRun
  split
  · exact Workflow.SendWindow.allows_untold _ _ _
  · exact .ok true

theorem dueAfter_untold (now : Moment) (amount : Int) (unit : WaitUnit) :
    Untold (dueAfter now amount unit) := by
  have hlength : Untold (waitingTime amount unit) := by
    unfold waitingTime
    dsimp only
    split
    · exact .ok _
    · exact .error rfl
  refine hlength.bind fun us => ?_
  split
  · exact .ok _
  · exact .error rfl

theorem stepOfWait_untold (amount : Int) (unit : WaitUnit) : Untold (stepOfWait c n amount unit) := by
  unfold stepOfWait
  dsimp only
  split
  · exact .ok _
  · split
    · split
      · exact .error rfl
      · exact .ok _
      · exact .ok _
    · exact .error rfl
    · exact (dueAfter_untold _ _ _).bind fun due => .ok _

theorem due?_untold (s : Step) : Untold s.due? := by
  unfold Step.due?
  split
  · split
    · exact .ok none
    · split
      · exact .ok _
      · exact .error rfl
  · exact .ok _

/-- Running a node ends with no such fault. -/
theorem NodeRan.untold {res : Except Fault (Step × Context)} {xs : List Exchange}
    (hr : NodeRan P h c n res xs) : Untold res := by
  cases hr with
  | trigger | skipped | refused | late | answered => exact .ok _
  | blocked _ hm => exact .error (mayRun_untold _ hm)
  | waited => exact (stepOfWait_untold _ _).map _

/-- Running nodes ends with no such fault. By recursion on the nodes. -/
theorem walk_untold : ∀ {nodes : List Chain.Node} {c : Context} {r : Report}
    {res : Except Fault Report} {xs : List Exchange}, (runNodes h c r nodes).ComesTo P res xs →
    Untold res
  | [], c, r, res, xs, hr => by
    rw [(comesTo_runNodes_nil hr).1]
    exact .ok _
  | n :: rest, c, r, res, xs, hr => by
    rcases comesTo_runNodes_cons hr with ⟨f, hran, rfl⟩ | ⟨s, c', ys, zs, hran, rfl, hgo⟩
    · exact .error (hran.untold f rfl)
    · cases hgo with
      | failed | paused => exact .ok _
      | passed _ _ hrest => exact walk_untold hrest
      | faulted _ _ hdue => exact .error (due?_untold s _ hdue)

/-- **Running a workflow ends with no fault that clients are told of**, whatever collaborators reply:
a definition that cannot be run is what the report says. -/
theorem run_untold {w : Runnable} {o : RunOptions} {res : Except Fault Report}
    {xs : List Exchange} (hr : (w.run h o).ComesTo P res xs) : Untold res := by
  unfold Runnable.run at hr
  split at hr
  · rw [(Plan.comesTo_done.1 hr).1]
    exact .ok _
  · rename_i line window _
    rcases runFrom_cases line h o.id (o.context window) o.start with ⟨hrun, -⟩ | ⟨-, complaint, hrun⟩
    · rw [hrun] at hr
      exact walk_untold hr
    · rw [hrun] at hr
      rw [(Plan.comesTo_done.1 hr).1]
      exact .ok _

theorem resumption_untold (chain : Chain) (steps : List Step) : Untold (resumption chain steps) := by
  unfold resumption
  split
  · exact .ok _
  · split
    · exact .ok _
    · split
      · exact (due?_untold _).bind fun due => .ok _
      · split <;> exact .ok _

end

theorem Report.markdown_untold (r : Report) (title : String) : Untold (r.markdown title) := by
  have helapsed : ∀ start finish, Untold (elapsed start finish) := by
    intro start finish
    unfold elapsed
    split
    · exact .ok _
    · exact .error rfl
  unfold Report.markdown
  dsimp only
  split
  · exact (helapsed _ _).bind fun us => .ok _
  · exact .ok _

/-! ### Timers -/

theorem Timers.arm_untold (t : Timers) (now : Moment) (ceiling : Int) (id : String) (delay : Delay) :
    Untold (t.arm now ceiling id delay) := by
  have htruncate : ∀ d : Delay, Untold d.truncate := by
    intro d
    unfold Delay.truncate
    split
    · exact .ok _
    · exact .error rfl
    · split
      · exact .ok _
      · exact .error rfl
  have hclamp : Untold (delay.clamp (.whole ceiling)) := by
    unfold Delay.clamp
    generalize (if (Delay.whole ceiling).less delay then Delay.whole ceiling else delay) = limited
    dsimp only
    split
    · exact htruncate limited
    · exact .ok 0
  unfold Timers.arm
  refine hclamp.bind fun ms => ?_
  split
  · exact .error rfl
  · exact .ok _

/-! ### Enrollments -/

namespace Enrollment

theorem readBack_untold {α : Type} (x : Checked α) : Untold (readBack x) := by
  cases x with
  | ok a => exact .ok a
  | bad i is => exact .error rfl

theorem readTime_untold (text : String) : Untold (readTime text) := readBack_untold _

theorem Row.read_untold (r : Row) : Untold r.read := by
  have htime : ∀ text : Option String, Untold (text.mapM readTime) := by
    intro text
    cases text with
    | none => exact .ok none
    | some text => exact (readTime_untold text).map some
  unfold Row.read
  refine (Untold.mapM (fun s => (readTime_untold _).bind fun m => .ok _) _).bind fun steps => ?_
  refine (readBack_untold _).bind fun lead => (readBack_untold _).bind fun overrides => ?_
  exact (readTime_untold _).bind fun createdAt => (htime _).bind fun completedAt =>
    (htime _).bind fun resumeAt => .ok _

namespace Rows

variable (rows : Rows)

theorem get_untold (id : String) : Untold (rows.get id) := by
  unfold Rows.get
  split
  · exact .ok none
  · exact (Row.read_untold _).bind fun e => .ok _

theorem recordRun_untold (id : String) (steps : List Step) (status : String)
    (completedAt resumeAt : Option Moment) :
    Untold (rows.recordRun id steps status completedAt resumeAt) := by
  unfold recordRun
  split
  · exact .error rfl
  · split
    · exact .error rfl
    · exact .ok _

theorem dueAt_untold (now : Moment) : Untold (rows.dueAt now) := by
  have hscheduled : Untold rows.scheduled := by
    refine Untold.mapM ?_ _
    rintro ⟨id, text⟩
    dsimp only
    split
    · exact .ok _
    · exact .error rfl
  refine hscheduled.bind fun due => Untold.filterMapM ?_ _
  rintro ⟨id, due⟩
  dsimp only
  split
  · exact .ok _
  · exact .ok _
  · exact .error rfl

end Rows
end Enrollment

/-! ### Workflows -/

namespace Workflow

theorem File.read_untold (now : Moment) (f : File) : Untold (f.read now) := by
  unfold File.read
  split
  · exact .ok _
  · exact .error rfl

theorem File.number_untold (f : File) : Untold f.number := by
  unfold File.number File.numberIn
  dsimp only
  split
  · exact .ok _
  · exact .error rfl

namespace Files

variable (files : Files)

theorem patternOf_untold (id : String) : Untold (patternOf id) := by
  unfold patternOf
  dsimp only
  split
  · exact .error rfl
  · split
    · exact .error rfl
    · split
      · exact .error rfl
      · exact .ok _

theorem selectFolders_untold (part : String) (d : Folder) : Untold (files.selectFolders part d) := by
  unfold selectFolders
  split
  · exact .ok _
  · split
    · exact .ok _
    · split
      · exact .ok []
      · split
        · exact .ok _
        · exact .error rfl
        · exact .ok []

theorem select_untold : ∀ (parts : List String) (folders : List Folder),
    Untold (files.select parts folders)
  | [], _ => .ok []
  | [_], _ => .ok _
  | part :: next :: rest, folders => by
    unfold select
    exact (Untold.mapM (files.selectFolders_untold part) folders).bind fun found =>
      select_untold (next :: rest) found.flatten

theorem versions_untold (id : String) : Untold (files.versions id) :=
  (patternOf_untold id).bind fun parts => (files.select_untold parts [.home]).bind fun _ => .ok _

/-- **Loading a workflow ends with no fault that clients are told of**: that there is none is what it
gives. -/
theorem load_untold (now : Moment) (id : String) : Untold (files.load now id) := by
  have hlatest : Untold (files.latest id) := by
    refine (files.versions_untold id).bind fun found => Untold.bind (Untold.mapM ?_ found) fun l => .ok _
    exact fun f => (File.number_untold f).bind fun n => .ok (n, f)
  refine hlatest.bind fun o => ?_
  cases o with
  | none => exact .ok none
  | some f => exact (File.read_untold now f).bind fun r => .ok (some r)

end Files
end Workflow
end Cadence
