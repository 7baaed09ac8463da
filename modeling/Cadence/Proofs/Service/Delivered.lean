/-
# Deliveries are made once and recorded

Two logs are kept of an enrollment: the calls that collaborators returned from, and the stored steps
of nodes that sent something. They go side by side (`calls_recorded`): whatever is done with the
service, the calls that returned are recorded in order and node by node, each in one step, and there
are no other such steps. No node has two of them, so nothing is delivered twice.

The invariant is `Accounted`. Every run keeps it because its steps are recorded whole (`newSteps`)
or it has made no calls; that is where due times have to be in range (`Serves`).

Key definitions: `Serves`, `Accounted`.
Key theorems: `reaches_of_serves`, `Invocation.accounted`, `calls_recorded`.
-/
import Cadence.Proofs.Run.Legs
import Cadence.Proofs.Service.Shape

namespace Cadence
namespace Service

open Time
open Enrollment (Row Rows StepRow Grown)

variable {σ : Type}

/-! ### Clocks -/

/-- A clock whose time serves a chain: the due time of every wait that is reached at this time is
one that clocks can show, there and in universal time. -/
structure Serves (chain : Chain) (m : Moment) : Prop where
  valid : m.IsValid
  inRange : ∀ n ∈ chain.nodes, ∀ amount unit, n.config = .wait amount unit →
    ∃ due, dueAfter m.assumeUtc amount unit = .ok due ∧ due.toUtc.isSome = true

/-- A moment as it is read back is still one that universal time can show. -/
theorem kept_toUtc {m : Moment} (h : m.toUtc.isSome = true) : m.kept.toUtc.isSome = true := by
  rcases m with ⟨reading, _ | o⟩
  · exact h
  · unfold Moment.kept
    simp only [Option.map_some]
    by_cases hs : o.natAbs < 1000000
    · rw [if_pos hs]
      rfl
    · rw [if_neg hs]
      exact h

/-- The due times of a chain are reached by a clock that serves it. -/
theorem reaches_of_serves {chain : Chain} {m : Moment} (hm : Serves chain m) {c : Context}
    (hc : c.now = m.assumeUtc) : ∀ n ∈ chain.nodes, c.Reaches n := by
  intro n hn amount unit hconf
  obtain ⟨due, hdue, hutc⟩ := hm.inRange n hn amount unit hconf
  obtain ⟨hvalid, hoffset⟩ := dueAfter_isValid (assumeUtc_isValid hm.valid) hdue
  have hknown : due.kept.offset.isSome = true := by
    unfold Moment.kept
    rw [Option.isSome_map, hoffset]
    rcases m with ⟨reading, _ | o⟩ <;> rfl
  obtain ⟨u, hu⟩ := Option.isSome_iff_exists.1 (kept_toUtc hutc)
  rw [hc]
  exact ⟨due, due.kept, u, hdue, ofIso?_iso hvalid, kept_isValid hvalid, hknown, hu⟩

/-! ### The invariant -/

/-- The invariant: histories have their shape, the calls that returned so far and the steps that
were sent go side by side, and nothing was delivered for an enrollment that is not there. -/
structure Accounted (wid : String) (d : Workflow.Definition) (chain : Chain) (h : Bool)
    (log : String → List Exchange) (s : State σ) : Prop extends Shaped wid d chain s where
  recorded : ∀ r ∈ s.rows, r.workflowId = wid →
    List.Forall₂ (Records h chain.nodes) ((log r.id).filter (·.reply.isReturned))
      ((r.steps.map StepRow.entry).filter (·.isSent d.settings.sendWindow))
  silent : ∀ id, s.rows.find? id = none → log id = []

/-- The log with further calls for one enrollment. -/
def addCalls (log : String → List Exchange) (id : String) (calls : List Exchange) :
    String → List Exchange := fun id' => if id = id' then log id' ++ calls else log id'

section
variable {wid : String} {d : Workflow.Definition} {chain : Chain} {h : Bool} {c : Config}
  {k : Collaborators σ} {log : String → List Exchange}

theorem Idle.accounted {s s' : State σ} (hi : Idle s s') (hs : Accounted wid d chain h log s) :
    Accounted wid d chain h log s' := by
  refine ⟨hi.shaped hs.toShaped, ?_, ?_⟩
  · rw [hi.rows]
    exact hs.recorded
  · rw [hi.rows]
    exact hs.silent

theorem Registered.accounted {s s' : State σ} {e : Enrollment} (ha : Registered s e s')
    (hs : Accounted wid d chain h log s) : Accounted wid d chain h log s' := by
  refine ⟨ha.shaped hs.toShaped, ?_, ?_⟩
  · rw [ha.rows]
    intro r hr hw
    rcases List.mem_append.1 hr with hr | hr
    · exact hs.recorded r hr hw
    · rw [List.mem_singleton.1 hr]
      have hsteps : (Row.ofEnrollment e).steps = e.steps.map StepRow.ofStep := rfl
      have hlog : log (Row.ofEnrollment e).id = [] := hs.silent e.id ha.fresh
      rw [hsteps, ha.steps, hlog]
      exact .nil
  · intro id hid
    refine hs.silent id ?_
    rw [ha.rows] at hid
    unfold Rows.find? at hid ⊢
    rw [List.find?_append, Option.or_eq_none_iff] at hid
    exact hid.1

/-- If what an enrollment got are the steps of the calls made for it, the invariant is kept. -/
theorem Grew.accounted {s s' : State σ} {id : String} {new : List StepRow}
    {calls : List Exchange} (hg : Grew id new s s') (hs : Accounted wid d chain h log s)
    (hs' : Shaped wid d chain s') (hmissing : s.rows.find? id = none → calls = [])
    (hnew : ∀ r ∈ s.rows, r.id = id → r.workflowId = wid →
      List.Forall₂ (Records h chain.nodes) (calls.filter (·.reply.isReturned))
        ((new.map StepRow.entry).filter (·.isSent d.settings.sendWindow))) :
    Accounted wid d chain h (addCalls log id calls) s' := by
  refine ⟨hs', ?_, ?_⟩
  · intro r' hr' hw
    obtain ⟨r, hr, hid, hwid, hsteps⟩ := hg.rows.mem hr'
    rw [hwid] at hw
    rw [hid, hsteps, addCalls]
    by_cases heq : r.id = id
    · rw [if_pos heq.symm, if_pos heq, List.map_append, List.filter_append, List.filter_append]
      exact List.rel_append (hs.recorded r hr hw) (hnew r hr heq hw)
    · rw [if_neg (Ne.symm heq), if_neg heq]
      exact hs.recorded r hr hw
  · intro id' hid'
    have hnone : s.rows.find? id' = none := by
      have hsome : (s'.rows.find? id').isSome = (s.rows.find? id').isSome :=
        hg.rows.find?_isSome
      rw [hid'] at hsome
      cases hfind : s.rows.find? id' with
      | none => rfl
      | some r =>
        rw [hfind] at hsome
        cases hsome
    rw [addCalls]
    split
    · rename_i heq
      subst heq
      rw [hs.silent id hnone, hmissing hnone]
      rfl
    · exact hs.silent id' hnone

/-- An enrollment that is ready is there. -/
theorem Ready.find?_ne_none {s : State σ} {id : String} {e : Enrollment} {w : Workflow.Record}
    {chain' : Chain} {p : Resumption} (hready : Ready s id e w chain' p) :
    s.rows.find? id ≠ none := by
  obtain ⟨r, e', hfind, -⟩ := hready.stored
  rw [hfind]
  exact Option.some_ne_none r

/-- Where the due time of a report's pause is told, it can be stored. -/
theorem dueTime_of_told {now : Moment} {r : Report} (ht : Told (.ok r))
    (hp : r.isPaused = true) : ∃ due, dueTime now r.resumeAt = .ok due := by
  obtain ⟨r', hr, hdue⟩ := ht
  cases hr
  obtain ⟨m, hm, hutc⟩ := hdue hp
  obtain ⟨u, hu⟩ := Option.isSome_iff_exists.1 hutc
  refine ⟨u, ?_⟩
  rw [hm, dueTime_eq_ok]
  exact hu

/-- A run of an enrollment of the workflow takes up the history that is stored for it. -/
theorem Shaped.takesUp {s : State σ} (hs : Shaped wid d chain s)
    (hchain : d.linearize = .ok chain) {id : String} {e : Enrollment} {w : Workflow.Record}
    {chain' : Chain} {p : Resumption} (hready : Ready s id e w chain' p) {r : Row}
    (hr : r ∈ s.rows) (hid : r.id = id) (hw : r.workflowId = wid) (c : Config)
    (ignore : Option Bool) (h : Bool) : chain' = chain ∧ w.definition = d ∧
      ∃ n rest now, TakesUp h chain e.steps (runOptions c e w p ignore s.clock) n rest now := by
  obtain ⟨rfl, hdef, hentries⟩ := hs.ready hchain hready hr hid hw
  have hhist := hs.histories r hr hw
  rw [← hentries] at hhist
  exact ⟨rfl, hdef, takesUp_of_resumption (Workflow.linearize_sound hchain) hhist hready.resumes
    hready.ahead rfl rfl h⟩

/-- The steps of a report that are left out are one pause, which was not sent. -/
theorem sent_newSteps {e : Enrollment} {report : Report} {window : Option Workflow.SendWindow}
    (hlast : report.isPaused = true →
      ∃ before s, report.steps = before ++ [s] ∧ s.entry.isSent window = false) :
    ((newSteps e report).map Step.entry).filter (·.isSent window) =
      (report.steps.map Step.entry).filter (·.isSent window) := by
  rcases newSteps_cases e report with hall | ⟨hnone, hpaused, s, last, hone, -⟩
  · rw [hall]
  · obtain ⟨before, s', hsteps, hsent⟩ := hlast hpaused
    have hsame : [] ++ [s] = before ++ [s'] := hone.symm.trans hsteps
    obtain ⟨-, rfl⟩ := List.append_singleton_inj.1 hsame
    rw [hnone, hone, List.map_singleton,
      List.filter_cons_of_neg (by rw [hsent]; exact Bool.false_ne_true)]
    rfl

/-- **A run of an enrollment keeps the account of its deliveries.** -/
theorem Invocation.accounted (hk : k.Reply Reply.Plain) (hchain : d.linearize = .ok chain)
    (i : Invocation σ) (hclock : Serves chain i.before.clock)
    (hs : Accounted wid d chain k.handsOver log i.before) :
    Accounted wid d chain k.handsOver (addCalls log i.id (i.calls c k)) (i.after c k) := by
  have hshaped : Shaped wid d chain (i.after c k) := Invocation.shaped hk hchain i hs.toShaped
  have hsound := Workflow.linearize_sound hchain
  have hreach : ∀ {e w p}, ∀ m ∈ chain.nodes,
      InReach ((runOptions c e w p i.ignore i.before.clock).context
        w.definition.settings.sendWindow) m :=
    fun {e w p} m hm => (reaches_of_serves hclock rfl m hm).inReach
  cases advance_cases c hk i with
  | idle hcalls hgrew =>
    rw [hcalls]
    exact hgrew.accounted hs hshaped (fun _ => rfl) (fun _ _ _ _ => .nil)
  | faulted hready hcomes hgrew =>
    refine hgrew.accounted hs hshaped (fun hnone => absurd hnone hready.find?_ne_none) ?_
    intro r hr hid hw
    obtain ⟨rfl, -, n, rest, now, ht⟩ :=
      hs.takesUp hchain hready hr hid hw c i.ignore k.handsOver
    rcases ht.silent_or_told hsound rfl hreach hcomes with hcalls | ⟨report, heq, -⟩
    · rw [hcalls]
      exact .nil
    · cases heq
  | lost hready hcomes hstatus hpaused hdue hgrew =>
    refine hgrew.accounted hs hshaped (fun hnone => absurd hnone hready.find?_ne_none) ?_
    intro r hr hid hw
    obtain ⟨rfl, -, n, rest, now, ht⟩ :=
      hs.takesUp hchain hready hr hid hw c i.ignore k.handsOver
    rcases ht.silent_or_told hsound rfl hreach hcomes with hcalls | htold
    · rw [hcalls]
      exact .nil
    · obtain ⟨due, hdue'⟩ := dueTime_of_told htold hpaused
      rw [hdue'] at hdue
      cases hdue
  | recorded hready hcomes hgrew =>
    rename_i e w chain' p report
    refine hgrew.accounted hs hshaped (fun hnone => absurd hnone hready.find?_ne_none) ?_
    intro r hr hid hw
    obtain ⟨rfl, hdef, -⟩ :=
      hs.takesUp hchain hready hr hid hw c i.ignore k.handsOver
    obtain ⟨hrec, hlast⟩ := run_records hsound rfl hcomes
    have hwindow : (runOptions c e w p i.ignore i.before.clock).sendWindow =
        d.settings.sendWindow := by
      rw [← hdef]
      rfl
    rw [hwindow] at hrec hlast
    rw [ofStep_entries, sent_newSteps hlast]
    exact hrec

/-! ### All operations -/

/-- The calls for an enrollment in some runs. -/
def callsIn (c : Config) (k : Collaborators σ) (is : List (Invocation σ)) (id : String) :
    List Exchange :=
  (is.filter (·.id = id)).flatMap (·.calls c k)

theorem callsIn_append (is js : List (Invocation σ)) (id : String) :
    callsIn c k (is ++ js) id = callsIn c k is id ++ callsIn c k js id := by
  unfold callsIn
  rw [List.filter_append, List.flatMap_append]

theorem callsIn_single (i : Invocation σ) : callsIn c k [i] i.id = i.calls c k := by
  unfold callsIn
  rw [List.filter_cons_of_pos (by simp), List.filter_nil, List.flatMap_singleton]

/-- The calls of a run come before those of the runs after it. -/
theorem addCalls_callsIn (log : String → List Exchange) (i : Invocation σ)
    (is : List (Invocation σ)) :
    (fun id => addCalls log i.id (i.calls c k) id ++ callsIn c k is id) =
      fun id => log id ++ callsIn c k (i :: is) id := by
  funext id
  unfold addCalls callsIn
  by_cases heq : i.id = id
  · rw [if_pos heq, List.filter_cons_of_pos (by simpa using heq), List.flatMap_cons,
      List.append_assoc]
  · rw [if_neg heq, List.filter_cons_of_neg (by simpa using heq)]

theorem Turns.accounted (hk : k.Reply Reply.Plain) (hchain : d.linearize = .ok chain)
    {s s' : State σ} {is : List (Invocation σ)} (ht : Turns c k s is s') :
    ∀ {log : String → List Exchange}, Serves chain s.clock →
      Accounted wid d chain k.handsOver log s →
      Accounted wid d chain k.handsOver (fun id => log id ++ callsIn c k is id) s' := by
  induction ht with
  | done s =>
    intro log _ hs
    have hlog : (fun id => log id ++ callsIn c k [] id) = log := by
      funext id
      exact List.append_nil _
    rw [hlog]
    exact hs
  | idle hi _ ih =>
    intro log hclock hs
    exact ih (by rw [hi.clock]; exact hclock) (hi.accounted hs)
  | register ha _ ih =>
    intro log hclock hs
    exact ih (by rw [ha.clock]; exact hclock) (ha.accounted hs)
  | run _ ih =>
    rename_i i s'' is _
    intro log hclock hs
    have hone := ih (by rw [i.clock]; exact hclock) (Invocation.accounted hk hchain i hclock hs)
    rwa [addCalls_callsIn] at hone

end

/-- The sample's wait of a day is in range as long as there is another day. -/
theorem Sample.serves {reading : Int} (h0 : 0 ≤ reading) (h1 : reading + day < endOfTime) :
    Serves Sample.chain ⟨reading, some 0⟩ := by
  have hpos : 0 < day := by decide
  refine ⟨⟨?_, ?_⟩, ?_⟩
  · simp only [Moment.shows, Bool.and_eq_true, decide_eq_true_eq]
    omega
  · intro o ho
    cases ho
    decide
  · intro n hn amount unit hc
    have hwait : amount = 1 ∧ unit = .days := by
      simp only [Sample.chain, List.mem_cons, List.not_mem_nil, or_false] at hn
      rcases hn with rfl | rfl | rfl | rfl <;> cases hc
      exact ⟨rfl, rfl⟩
    obtain ⟨rfl, rfl⟩ := hwait
    have hshown : Moment.shows (reading + day) = true := by
      simp only [Moment.shows, Bool.and_eq_true, decide_eq_true_eq]
      omega
    have hadd : Moment.add ⟨reading, some 0⟩ day = some ⟨reading + day, some 0⟩ := by
      unfold Moment.add
      simp only [hshown, if_true]
    have htime : waitingTime 1 .days = .ok day := rfl
    refine ⟨⟨reading + day, some 0⟩, bind_eq_ok.2 ⟨day, htime, ?_⟩, rfl⟩
    simp only [Moment.assumeUtc, hadd]

end Service
end Cadence
