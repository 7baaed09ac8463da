/-
# Coming too early or too late

Advancing an enrollment before it is due, or after it has succeeded, changes nothing of what is on
record, however often and in whatever way: by hand, by its timer or by a poll, and whatever else
happens to other enrollments in between (`carry_unmoved`). No collaborator is asked, the timer of an
enrollment that waits is set afterwards, and there is none for an enrollment that has succeeded.

What single runs leave on record (`Invocation.over`, `Invocation.early`) is carried through
operations by `play_meets`: each run of the enrollment finds its row as it was.

An enrollment waits in this sense where a wait has paused it. A reply may claim to pause the run as
well, and then the same message is sent again with each run (`paused_mail_is_sent_again`).

Key definitions: `Invocation.Meets`, `Unmoved`, `Before`.
Key theorems: `play_meets`, `play_watched`, `carry_unmoved`.
-/
import Cadence.Proofs.Service.Guarded
import Cadence.Proofs.Service.Waiting

namespace Cadence
namespace Service

open Time
open Enrollment (Row Rows)

variable {σ : Type}

/-! ### Runs that find a row as it was -/

/-- A run without news, of the enrollment of a row, in a state that has this row and certain
workflows, and whose clock shows times of some kind. -/
structure Invocation.Meets (Q : Moment → Prop) (files : Workflow.Files) (r : Row)
    (i : Invocation σ) : Prop where
  id : i.id = r.id
  news : i.news = none
  files : i.before.files = files
  clock : Q i.before.clock
  ids : (i.before.rows.map (·.id)).Nodup
  mem : r ∈ i.before.rows

/-- A state in which such runs find a row. -/
structure Keeps (Q : Moment → Prop) (files : Workflow.Files) (r : Row) (s : State σ) : Prop where
  files : s.files = files
  clock : Q s.clock
  ids : (s.rows.map (·.id)).Nodup
  mem : r ∈ s.rows

section
variable {c : Config} {k : Collaborators σ} {Q : Moment → Prop} {files : Workflow.Files} {r : Row}

/-- A run among others leaves a row, if runs leave it that find it. -/
theorem Keeps.run (keep : ∀ i : Invocation σ, i.Meets Q files r → r ∈ (i.after c k).rows)
    {i : Invocation σ} (hnews : i.id = r.id → i.news = none) (h : Keeps Q files r i.before) :
    Keeps Q files r (i.after c k) := by
  refine ⟨by rw [i.files]; exact h.files, by rw [i.clock]; exact h.clock,
    by rw [i.ids]; exact h.ids, ?_⟩
  by_cases hid : i.id = r.id
  · exact keep i ⟨hid, hnews hid, h.files, h.clock, h.ids, h.mem⟩
  · exact (i.mem_of_ne (Ne.symm hid)).2 h.mem

/-- Along turns each run of a row's enrollment finds the row as it was. -/
theorem Turns.meets (keep : ∀ i : Invocation σ, i.Meets Q files r → r ∈ (i.after c k).rows)
    {s s' : State σ} {is : List (Invocation σ)} (ht : Turns c k s is s')
    (hnews : ∀ i ∈ is, i.id = r.id → i.news = none) (h : Keeps Q files r s) :
    Keeps Q files r s' ∧ ∀ i ∈ is, i.id = r.id → i.Meets Q files r := by
  induction ht with
  | done => exact ⟨h, fun _ hi => absurd hi List.not_mem_nil⟩
  | idle hi _ ih =>
    refine ih hnews ⟨by rw [hi.files]; exact h.files, by rw [hi.clock]; exact h.clock, ?_, ?_⟩ <;>
      rw [hi.rows]
    · exact h.ids
    · exact h.mem
  | register ha _ ih =>
    refine ih hnews ⟨by rw [ha.files]; exact h.files, by rw [ha.clock]; exact h.clock, ha.ids h.ids,
      ?_⟩
    rw [ha.rows]
    exact List.mem_append_left _ h.mem
  | run _ ih =>
    rename_i i s'' is _
    rw [List.forall_mem_cons] at hnews ⊢
    obtain ⟨hlast, hrest⟩ := ih hnews.2 (h.run keep hnews.1)
    exact ⟨hlast, fun hid => ⟨hid, hnews.1 hid, h.files, h.clock, h.ids, h.mem⟩, hrest⟩

/-- An operation brings no news about the lead of an enrollment. -/
def Operation.Untold (id : String) (op : Operation) : Prop :=
  ∀ ignore news, op ≠ .advance id ignore (some news)

theorem Operation.Untold.news {op : Operation} {id : String} (h : op.Untold id) (s : State σ) :
    ∀ i ∈ op.invocations c k s, i.id = id → i.news = none := by
  intro i hi hid
  rcases op.news s i hi with hnone | rfl
  · exact hnone
  · cases hnews : i.news with
    | none => rfl
    | some news => exact absurd (by rw [hid, hnews]) (h i.ignore news)

/-- Each run that an operation comes to finds the row of its enrollment as it was. -/
theorem Operation.meets (keep : ∀ i : Invocation σ, i.Meets Q files r → r ∈ (i.after c k).rows)
    {op : Operation} (hop : op.Untold r.id) (hset : (Command.operate op).Sets Q) {s : State σ}
    (h : Keeps Q files r s) : Keeps Q files r (op.perform c k s) ∧
      ∀ i ∈ op.invocations c k s, i.id = r.id → i.Meets Q files r := by
  by_cases hclock : ∃ now, op = .setClock now
  · obtain ⟨now, rfl⟩ := hclock
    exact ⟨⟨h.files, hset, h.ids, h.mem⟩, fun _ hi => absurd hi List.not_mem_nil⟩
  · exact (op.turns s fun now heq => hclock ⟨now, heq⟩).meets keep (hop.news s) h

/-- **Each run that operations come to finds the row of its enrollment as it was**, if such runs
leave the row. -/
theorem play_meets (keep : ∀ i : Invocation σ, i.Meets Q files r → r ∈ (i.after c k).rows) :
    ∀ {ops : List Operation}, (∀ op ∈ ops, op.Untold r.id) →
      (∀ op ∈ ops, (Command.operate op).Sets Q) → ∀ {s : State σ}, Keeps Q files r s →
        Keeps Q files r (play c k ops s) ∧
          ∀ i ∈ invocationsOf c k ops s, i.id = r.id → i.Meets Q files r
  | [], _, _, _, h => ⟨h, fun _ hi => absurd hi List.not_mem_nil⟩
  | op :: ops, hops, hset, s, h => by
    rw [List.forall_mem_cons] at hops hset
    obtain ⟨hnext, hone⟩ := Operation.meets keep hops.1 hset.1 h
    obtain ⟨hlast, hrest⟩ := play_meets keep hops.2 hset.2 hnext
    refine ⟨hlast, fun i hi => ?_⟩
    rcases List.mem_append.1 hi with hi | hi
    · exact hone i hi
    · exact hrest i hi

/-- Nobody is asked for an enrollment, if none of its runs asks anybody. -/
theorem callsFor_eq_nil {id : String} {ops : List Operation} {s : State σ}
    (h : ∀ i ∈ invocationsOf c k ops s, i.id = id → i.calls c k = []) :
    callsFor c k id ops s = [] := by
  unfold callsFor
  rw [List.flatMap_eq_nil_iff]
  intro i hi
  obtain ⟨hmem, hid⟩ := List.mem_filter.1 hi
  exact h i hmem (by simpa using hid)

/-! ### The timer of one enrollment -/

variable {id : String}

/-- Who is watched or run, and does not lapse, is watched afterwards. -/
theorem Invocation.watched_after (i : Invocation σ) (hno : i.id = id → ¬ i.Lapses c k)
    (h : Watched i.before id ∨ id = i.id) : Watched (i.after c k) id := by
  by_cases hid : id = i.id
  · rw [hid]
    exact i.watched_iff.2 (hno hid.symm)
  · exact (i.watched_other hid).2 (h.resolve_right hid)

theorem Woken.watched_after {s s' : State σ} {is : List (Invocation σ)} (hw : Woken c k s is s')
    (hno : ∀ i ∈ is, i.id = id → ¬ i.Lapses c k) (h : Watched s id ∨ id ∈ is.map (·.id)) :
    Watched s' id := by
  induction hw with
  | done => exact h.resolve_right List.not_mem_nil
  | wake _ ih =>
    rename_i id' s s' is _
    rw [List.forall_mem_cons] at hno
    rw [List.map_cons, List.mem_cons] at h
    refine ih hno.2 ?_
    by_cases hid : id = (ringing id' s).id
    · exact Or.inl ((ringing id' s).watched_after hno.1 (Or.inr hid))
    rcases h with h | h | h
    · exact Or.inl ((ringing id' s).watched_after hno.1 (Or.inl ((ringing_watched hid).2 h)))
    · exact absurd h hid
    · exact Or.inr h

theorem Operation.watched_after {op : Operation} (hop : op ≠ .stop) {s : State σ}
    (hno : ∀ i ∈ op.invocations c k s, i.id = id → ¬ i.Lapses c k)
    (h : Watched s id ∨ id ∈ (op.invocations c k s).map (·.id)) :
    Watched (op.perform c k s) id := by
  cases op with
  | enroll workflowId lead source overrides =>
    rcases enroll_cases (c := c) (k := k) workflowId lead source overrides s with
      ⟨hnone, hidle, htimers⟩ | ⟨w, s', hreg, hone, hafter⟩
    · rw [hnone] at h
      intro r hr hid hdue
      rw [hidle.rows] at hr
      rw [htimers]
      exact h.resolve_right List.not_mem_nil r hr hid hdue
    · rw [hone, List.forall_mem_singleton] at hno
      rw [hone, List.map_singleton, List.mem_singleton] at h
      rw [hafter]
      exact Invocation.watched_after _ hno (h.imp_left (hreg.watched rfl))
  | advance id' ignore news =>
    have hone : (Operation.advance id' ignore news).invocations c k s = [⟨id', ignore, news, s⟩] :=
      rfl
    have hafter : (Operation.advance id' ignore news).perform c k s =
        (⟨id', ignore, news, s⟩ : Invocation σ).after c k := rfl
    rw [hone, List.forall_mem_singleton] at hno
    rw [hone, List.map_singleton, List.mem_singleton] at h
    rw [hafter]
    exact Invocation.watched_after _ hno h
  | fire id' => exact (Operation.woken _ s (Or.inr (Or.inl ⟨id', rfl⟩))).watched_after hno h
  | wakeDue now => exact (Operation.woken _ s (Or.inr (Or.inr ⟨now, rfl⟩))).watched_after hno h
  | tick => exact (Operation.woken _ s (Or.inl rfl)).watched_after hno h
  | start => exact start_watched (h.resolve_right List.not_mem_nil)
  | stop => exact absurd rfl hop
  | setClock now => exact h.resolve_right List.not_mem_nil

/-- **Who is watched at the start or run on the way, and never lapses, is watched in the end**, if
the service is not stopped. -/
theorem play_watched : ∀ {ops : List Operation}, .stop ∉ ops → ∀ {s : State σ},
    (∀ i ∈ invocationsOf c k ops s, i.id = id → ¬ i.Lapses c k) →
    Watched s id ∨ id ∈ (invocationsOf c k ops s).map (·.id) → Watched (play c k ops s) id
  | [], _, _, _, h => h.resolve_right List.not_mem_nil
  | op :: ops, hstop, s, hno, h => by
    rw [List.mem_cons, not_or] at hstop
    rw [invocationsOf, List.forall_mem_append] at hno
    rw [invocationsOf, List.map_append, List.mem_append, ← or_assoc] at h
    exact play_watched hstop.2 hno.2
      (h.imp_left (Operation.watched_after (Ne.symm hstop.1) hno.1))

end

/-! ### Rows that stay as they are -/

/-- Operations leave the row of an enrollment as it is, and nobody is asked for the enrollment. -/
structure Unmoved (c : Config) (k : Collaborators σ) (r : Row) (ops : List Operation)
    (s : State σ) : Prop where
  row : r ∈ (play c k ops s).rows
  silent : callsFor c k r.id ops s = []

/-- A time of a clock before a moment. -/
structure Before (u m : Moment) : Prop where
  aware : Aware m
  later : u.le? m = some false

section
variable {c : Config} {k : Collaborators σ} {wid : String} {d : Workflow.Definition} {chain : Chain}
  {r : Row} {ops : List Operation} {s : State σ}

/-- An enrollment that has succeeded stays as it is, at whatever time, and gets no timer. -/
theorem Completed.unmoved (h : Completed wid chain r) (hchain : d.linearize = .ok chain)
    (hsame : Unedited wid d s.files) (hids : (s.rows.map (·.id)).Nodup) (hr : r ∈ s.rows)
    (hw : r.workflowId = wid) (hsucc : r.status = .success) (hguarded : Guarded s.rows s.timers)
    (hops : ∀ op ∈ ops, op.Untold r.id) :
    Unmoved c k r ops s ∧ (play c k ops s).timers.isArmed r.id = false := by
  have keep : ∀ i : Invocation σ, i.Meets (fun _ => True) s.files r →
      r ∈ (i.after c k).rows ∧ i.calls c k = [] := fun i hi =>
    i.over hchain hi.news (by rw [hi.files]; exact hsame) hi.ids hi.mem hi.id hw hsucc h
  obtain ⟨hlast, hruns⟩ := play_meets (fun i hi => (keep i hi).1) hops
    (fun op _ => Command.sets_any _) ⟨rfl, trivial, hids, hr⟩
  refine ⟨⟨hlast.mem, callsFor_eq_nil fun i hi hid => (keep i (hruns i hi hid)).2⟩, ?_⟩
  exact (play_guarded ops hguarded).unarmed hlast.ids hlast.mem (by rw [hsucc]; decide)

/-- An enrollment that is paused at a wait stays as it is before it is due, and keeps its timer. -/
theorem Waiting.unmoved (h : Waiting wid chain r) (hchain : d.linearize = .ok chain)
    (hstored : Stored s.files wid d) (hids : (s.rows.map (·.id)).Nodup) (hr : r ∈ s.rows)
    (hw : r.workflowId = wid) {u : Moment} (hrests : Rests chain r u) (hclock : Before u s.clock)
    (hops : ∀ op ∈ ops, op.Untold r.id)
    (hset : ∀ op ∈ ops, (Command.operate op).Sets (Before u)) :
    Unmoved c k r ops s ∧ (.stop ∉ ops →
      (c.maxDelayMs ≤ Delay.longCeiling ∨ u.reading + 1000 ≤ endOfTime) →
      s.timers.isArmed r.id = true ∨ r.id ∈ (invocationsOf c k ops s).map (·.id) →
        (play c k ops s).timers.isArmed r.id = true) := by
  have keep : ∀ i : Invocation σ, i.Meets (Before u) s.files r → r ∈ (i.after c k).rows ∧
      i.calls c k = [] ∧ ((c.maxDelayMs ≤ Delay.longCeiling ∨ u.reading + 1000 ≤ endOfTime) →
        ∃ report, i.result c k = .ok report) := fun i hi =>
    i.early hchain hi.news (by rw [hi.files]; exact hstored) hi.clock.aware hi.ids hi.mem hi.id hw h
      hrests hi.clock.later
  obtain ⟨hlast, hruns⟩ := play_meets (fun i hi => (keep i hi).1) hops hset ⟨rfl, hclock, hids, hr⟩
  refine ⟨⟨hlast.mem, callsFor_eq_nil fun i hi hid => (keep i (hruns i hi hid)).2.1⟩, ?_⟩
  intro hstop hroom harmed
  have hno : ∀ i ∈ invocationsOf c k ops s, i.id = r.id → ¬ i.Lapses c k := by
    rintro i hi hid ⟨⟨f, hfault⟩, -⟩
    obtain ⟨report, hok⟩ := (keep i (hruns i hi hid)).2.2 hroom
    rw [hfault] at hok
    cases hok
  obtain ⟨text, htext, -⟩ := hrests.due
  exact play_watched hstop hno (harmed.imp_left fun harmed _ _ _ _ => harmed) r hlast.mem rfl
    (by rw [htext]; rfl)

/-- **Coming too early or too late changes nothing.** Whatever has been done with a service that
began without enrollments and timers, whatever the collaborators replied, and whatever operations follow
that bring no news about the lead of an enrollment: if the workflow of the enrollment is a chain and
was never edited, then

* if the enrollment has succeeded, its row stays as it is at whatever times, nobody is asked, and no
  timer is set for it;
* if it is paused at a wait and the clock is before its due time all along, its row stays as it is and
  nobody is asked; and unless the service is stopped, its timer is set afterwards, if it was before
  or if the enrollment was run. -/
theorem carry_unmoved (hchain : d.linearize = .ok chain) (hrows : s.rows = [])
    (hjobs : s.timers.jobs = []) (hclock : s.clock.IsValid) {cmds : List Command}
    (hcmds : ∀ cmd ∈ cmds, cmd.Sets Moment.IsValid)
    (hsame : ∀ n, Unedited wid d (carry c k (cmds.take n) s).files) :
    let s' := carry c k cmds s
    ∀ r ∈ s'.rows, r.workflowId = wid → ∀ ops : List Operation, (∀ op ∈ ops, op.Untold r.id) →
      (r.status = .success →
        Unmoved c k r ops s' ∧ (play c k ops s').timers.isArmed r.id = false) ∧
      (Aware s.clock → (∀ cmd ∈ cmds, cmd.Proper Aware) → Stored s'.files wid d →
        ∀ u, Rests chain r u → Before u s'.clock →
          (∀ op ∈ ops, (Command.operate op).Sets (Before u)) →
          Unmoved c k r ops s' ∧ (.stop ∉ ops →
            (c.maxDelayMs ≤ Delay.longCeiling ∨ u.reading + 1000 ≤ endOfTime) →
            s'.timers.isArmed r.id = true ∨ r.id ∈ (invocationsOf c k ops s').map (·.id) →
              (play c k ops s').timers.isArmed r.id = true)) := by
  intro s' r hr hw ops hops
  have hall := carry_allRows hsame
    (fun cmd hmem s hfiles h => cmd.completed hchain (hcmds cmd hmem) hfiles h)
    (AllRows.of_empty hclock hrows)
  refine ⟨fun hsucc => ?_, fun haware hproper hstored u hrests hbefore hset => ?_⟩
  · have hlast := hsame cmds.length
    rw [List.take_length] at hlast
    have hguarded := guarded_afterwards (c := c) (k := k) cmds (.of_empty hrows hjobs)
    exact (hall.rows r hr).unmoved hchain hlast hall.ids hr hw hsucc hguarded hops
  · have hwaiting := carry_allRows hsame
      (fun cmd hmem s hfiles h => cmd.waiting hchain (hproper cmd hmem) hfiles h)
      (AllRows.of_empty haware hrows)
    exact (hwaiting.rows r hr).unmoved hchain hstored hwaiting.ids hr hw hrests hbefore hops hset

end

/-- Half a day of the sample's wait of a day passes, with everything that can wake an enrollment. -/
def Sample.wakings : List Operation :=
  [.advance "enrollment-1" none none, .fire "enrollment-1",
    .setClock ⟨63870043200 * second, some 0⟩, .tick, .wakeDue ⟨63870043200 * second, some 0⟩]

/-- The sample's enrollment waits, and later has succeeded; and it is woken again and again. -/
theorem carry_unmoved_sample :
    let cmds := Sample.operations.map Command.operate
    let waiting := carry Sample.config Sample.collaborators (cmds.take 1) Sample.service
    let ended := carry Sample.config Sample.collaborators cmds Sample.service
    (waiting.rows.map (·.status) = [.inProgress] ∧ ∀ r ∈ waiting.rows,
      Unmoved Sample.config Sample.collaborators r Sample.wakings waiting ∧
        (play Sample.config Sample.collaborators Sample.wakings waiting).timers.isArmed r.id = true) ∧
    (ended.rows.map (·.status) = [.success] ∧ ∀ r ∈ ended.rows,
      Unmoved Sample.config Sample.collaborators r Sample.wakings ended ∧
        (play Sample.config Sample.collaborators Sample.wakings ended).timers.isArmed r.id = false) := by
  intro cmds waiting ended
  have hclock : Aware ⟨63870000000 * second, some 0⟩ := aware_of_utc (by decide) (by decide)
  have hhalf : Aware ⟨63870043200 * second, some 0⟩ := aware_of_utc (by decide) (by decide)
  have hsets : ∀ cmd ∈ cmds, cmd.Sets Moment.IsValid := fun cmd hcmd =>
    (Sample.proper cmd hcmd).sets.imp fun _ hm => hm.valid
  have hops : ∀ id, ∀ op ∈ Sample.wakings, op.Untold id := by
    intro id op hop ignore news heq
    subst heq
    simp [Sample.wakings] at hop
  have htake : ∀ {p : Command → Prop}, (∀ cmd ∈ cmds, p cmd) → ∀ cmd ∈ cmds.take 1, p cmd :=
    fun h cmd hmem => h cmd (List.mem_of_mem_take hmem)
  obtain ⟨hopen, hnow, hwaits⟩ : waiting.rows.map (·.status) = [.inProgress] ∧
      waiting.clock = ⟨63870000000 * second, some 0⟩ ∧ ∀ r ∈ waiting.rows,
        r.workflowId = "flow" ∧
        r.resumeAt.bind Moment.ofIso? = some ⟨63870086400 * second, some 0⟩ ∧
        r.steps.getLast?.map (·.nodeId) = some "rest" ∧ waiting.timers.isArmed r.id = true := by
    decide +kernel
  obtain ⟨hdone, hends⟩ : ended.rows.map (·.status) = [.success] ∧
      ∀ r ∈ ended.rows, r.workflowId = "flow" ∧ r.status = .success := by decide +kernel
  refine ⟨⟨hopen, fun r hr => ?_⟩, hdone, fun r hr => ?_⟩
  · obtain ⟨hwid, hdue, hlast, harmed⟩ := hwaits r hr
    obtain ⟨t, ht, hnode⟩ := Option.map_eq_some_iff.1 hlast
    have hrests : Rests Sample.chain r ⟨63870086400 * second, some 0⟩ := by
      refine ⟨Option.bind_eq_some_iff.1 hdue, t, ht, ⟨"rest", "wait", .wait 1 .days⟩, ?_, hnode,
        1, .days, rfl⟩
      simp [Sample.chain]
    have hset : ∀ op ∈ Sample.wakings,
        (Command.operate op).Sets (Before ⟨63870086400 * second, some 0⟩) := by
      intro op hop
      simp only [Sample.wakings, List.mem_cons, List.not_mem_nil, or_false] at hop
      rcases hop with rfl | rfl | rfl | rfl | rfl
      · trivial
      · trivial
      · exact ⟨hhalf, by decide⟩
      · trivial
      · trivial
    have hbefore : Before ⟨63870086400 * second, some 0⟩ waiting.clock := by
      rw [hnow]
      exact ⟨hclock, by decide⟩
    have hfiles : waiting.files = Sample.service.files := carry_files _ _ (htake Sample.spares) _
    obtain ⟨hrow, htimer⟩ := (carry_unmoved (c := Sample.config) (k := Sample.collaborators)
      Sample.linearize_definition rfl rfl hclock.valid (htake hsets)
      (carry_unedited (htake Sample.spares) Sample.stored) r hr hwid Sample.wakings
        (hops r.id)).2 hclock (htake Sample.proper) (by rw [hfiles]; exact Sample.stored) _ hrests
          hbefore hset
    exact ⟨hrow, htimer (by decide) (Or.inl (by decide)) (Or.inl harmed)⟩
  · obtain ⟨hwid, hsucc⟩ := hends r hr
    exact (carry_unmoved (c := Sample.config) (k := Sample.collaborators)
      Sample.linearize_definition rfl rfl hclock.valid hsets
      (carry_unedited Sample.spares Sample.stored) r hr hwid Sample.wakings (hops r.id)).1 hsucc

/-- A collaborator that claims to pause the run until a moment to come. -/
def Sample.pausing : Collaborators Unit :=
  ⟨fun _ w => (.returned (.obj [("paused", .bool true),
    ("resumeAt", .str "2030-01-01T00:00:00+00:00")]), w), true⟩

/-- An enrollment that is paused by a reply is not due, and still the message is sent again. -/
theorem paused_mail_is_sent_again :
    let after := carry Sample.config Sample.pausing
      [.operate (.enroll "flow" Sample.lead Enrollment.trialSource .none)] Sample.service
    ∃ r ∈ after.rows, r.id = "enrollment-1" ∧ r.status = .inProgress ∧
      r.resumeAt.bind Moment.ofIso? = some ⟨64029052800 * second, some 0⟩ ∧
      (⟨64029052800 * second, some 0⟩ : Moment).le? after.clock = some false ∧
      (callsFor Sample.config Sample.pausing "enrollment-1" [.advance "enrollment-1" none none]
        after).length = 1 := by
  decide +kernel

end Service
end Cadence
