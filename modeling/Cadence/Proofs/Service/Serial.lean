/-
# Work on one enrollment is as if done in turn

Whoever advances or deletes an enrollment, and whatever timer rings for it, waits for its lock. So
however the moves of several workers are mixed, what becomes of the enrollment is what the visits to
it make of it one after the other, in the order in which their workers got the lock
(`serializable`): its row with its steps, and the deliveries that were asked for on its behalf.

The invariant says this of each enrollment at every moment (`Serial`). Either nobody is at work for it,
and it is as the visits so far have left it (`Rested`); or one worker is in the middle of a run, which
began with the enrollment as the visits before have left it and has come as far as its replies let
it (`Midway`). What the others do meanwhile does not touch it (`Same`), because they work for other
enrollments.

So a worker that records what came of its run still finds the row of its enrollment
(`Played.present`); nobody can have deleted it in the meantime. Advances that come together make moves
in one such order (`Hall.played`).

Key definitions: `Same`, `Story`, `Rested`, `Midway`, `Serial`, `Played`.
Key theorems: `Serial.same`, `Story.follow`, `Serial.of_moved`, `serializable`, `Hall.played`.
-/
import Cadence.Proofs.Service.Alone
import Cadence.Proofs.Service.Apart
import Cadence.Proofs.Service.Booked
import Cadence.Service.Together

namespace Cadence
namespace Service

open Time
open Enrollment (Row Rows recorded)

namespace Floor

/-- The row of an enrollment. -/
def row (f : Floor) (id : String) : Option Row := f.state.rows.find? id

/-- The visits to an enrollment. -/
def visits (f : Floor) (id : String) : List Visit := f.book.filter (·.id = id)

/-- The deliveries that were asked for on behalf of an enrollment. -/
def calls (f : Floor) (id : String) : List (String × Delivery) := f.asked.filter (·.1 = id)

end Floor

/-- Whether a worker waits for the reply to a delivery for an enrollment. -/
def Worker.AsksFor (w : Worker) (id : String) : Prop :=
  w.todo.head? = some id ∧ ∃ visit e now d next, w.place = .asking visit e now d next

variable {c : Config} {h : Bool} {f f' f'' : Floor} {id : String}

/-! ### What does not concern an enrollment -/

/-- Nothing has happened to an enrollment. -/
structure Same (id : String) (f f' : Floor) : Prop where
  row : f'.row id = f.row id
  calls : f'.calls id = f.calls id
  visits : f'.visits id = f.visits id
  entries : ∀ (j : Nat) (v : Visit), v.id = id → (f'.book[j]? = some v ↔ f.book[j]? = some v)
  asking : ∀ (n : Nat) (w : Worker), w.AsksFor id → (f'.workers[n]? = some w ↔ f.workers[n]? = some w)

namespace Same

theorem refl (id : String) (f : Floor) : Same id f f :=
  ⟨rfl, rfl, rfl, fun _ _ _ => Iff.rfl, fun _ _ _ => Iff.rfl⟩

theorem trans (hs : Same id f f') (hs' : Same id f' f'') : Same id f f'' :=
  ⟨hs'.row.trans hs.row, hs'.calls.trans hs.calls, hs'.visits.trans hs.visits,
    fun j v hv => (hs'.entries j v hv).trans (hs.entries j v hv),
    fun n w hw => (hs'.asking n w hw).trans (hs.asking n w hw)⟩

/-- The state changes but for the row, and locks do. -/
theorem of_state {state : State Unit} {locks : LockTable}
    (hrow : state.rows.find? id = f.state.rows.find? id) : Same id f { f with state, locks } :=
  ⟨hrow, rfl, rfl, fun _ _ _ => Iff.rfl, fun _ _ _ => Iff.rfl⟩

/-- A visit to another enrollment begins. -/
theorem note (f : Floor) {id' : String} (hne : id ≠ id') (n : Nat) (errand : Errand) :
    Same id f (f.note n id' errand) := by
  refine ⟨rfl, rfl, ?_, ?_, fun _ _ _ => Iff.rfl⟩
  · unfold Floor.visits Floor.note
    rw [List.filter_append]
    simp [Ne.symm hne]
  · intro j v hv
    unfold Floor.note
    dsimp only
    rw [List.getElem?_append]
    split
    · exact Iff.rfl
    · rename_i hlen
      rw [List.getElem?_eq_none (Nat.not_lt.1 hlen)]
      constructor
      · intro hnew
        have hmem := List.mem_singleton.1 (List.mem_of_getElem? hnew)
        rw [hmem] at hv
        exact absurd hv.symm hne
      · exact nofun

/-- A reply is noted with a visit to another enrollment. -/
theorem noteReply (f : Floor) {visit : Nat} {v₀ : Visit} (hv₀ : f.book[visit]? = some v₀)
    (hne : v₀.id ≠ id) (r : Reply) : Same id f (f.noteReply visit r) := by
  refine ⟨rfl, rfl, ?_, ?_, fun _ _ _ => Iff.rfl⟩
  · obtain ⟨hlt, hget⟩ := List.getElem?_eq_some_iff.1 hv₀
    have hbook : f.book = f.book.take visit ++ v₀ :: f.book.drop (visit + 1) := by
      rw [← hget, List.getElem_cons_drop, List.take_append_drop]
    unfold Floor.visits Floor.noteReply
    dsimp only
    rw [List.modify_eq_take_cons_drop hlt, hget]
    conv_rhs => rw [hbook]
    simp [List.filter_append, hne]
  · intro j v hv
    unfold Floor.noteReply
    dsimp only
    rw [List.getElem?_modify]
    by_cases hj : visit = j
    · subst hj
      rw [hv₀]
      constructor
      · intro heq
        cases heq
        simp only [if_true] at hv
        exact absurd hv hne
      · intro heq
        cases heq
        exact absurd hv hne
    · simp [hj]

/-- A delivery is asked for on behalf of another enrollment. -/
theorem asked (f : Floor) {id' : String} (hne : id ≠ id') (d : Delivery) :
    Same id f { f with asked := f.asked ++ [(id', d)] } := by
  refine ⟨rfl, ?_, rfl, fun _ _ _ => Iff.rfl, fun _ _ _ => Iff.rfl⟩
  unfold Floor.calls
  dsimp only
  rw [List.filter_append]
  simp [Ne.symm hne]

/-- A worker moves that does not ask for the enrollment, neither before nor after. -/
theorem put {n : Nat} {w : Worker} {place : Place} (hw : f.workers[n]? = some w)
    (hno : ¬ w.AsksFor id) (hno' : ¬ ({ w with place } : Worker).AsksFor id) :
    Same id f (f.put n place) := by
  refine ⟨rfl, rfl, rfl, fun _ _ _ => Iff.rfl, ?_⟩
  intro m w' hasks
  rw [workers_put]
  by_cases hm : n = m
  · subst hm
    rw [hw, Option.map_some, if_pos rfl]
    constructor
    · intro heq
      rw [Option.some.inj heq] at hno'
      exact absurd hasks hno'
    · intro heq
      rw [Option.some.inj heq] at hno
      exact absurd hasks hno
  · simp [hm]

/-- A worker that does not ask for the enrollment lets go of a lock. -/
theorem leave {n : Nat} {w : Worker} {id' : String} {todo : List String} (ho : Orderly f)
    (hw : f.workers[n]? = some w) (hin : w.place.isInside = true) (hid : w.todo.head? = some id')
    (hne : id ≠ id') : Same id f (f.leave n id' todo) := by
  have hno : ¬ w.AsksFor id := fun hasks => hne (Option.some.inj (hasks.1.symm.trans hid))
  obtain ⟨hstate, -, hasked, hbook, -⟩ := leave_fields f n id' todo
  refine ⟨by unfold Floor.row; rw [hstate], by unfold Floor.calls; rw [hasked],
    by unfold Floor.visits; rw [hbook], by rw [hbook]; exact fun _ _ _ => Iff.rfl, ?_⟩
  intro m w' hasks
  rw [workers_leave]
  by_cases hm : n = m
  · subst hm
    rw [hw, Option.map_some]
    dsimp only
    rw [if_pos rfl]
    constructor
    · intro heq
      obtain ⟨-, visit, e, now, d, next, hplace⟩ := hasks
      rw [← Option.some.inj heq] at hplace
      split at hplace <;> cases hplace
    · intro heq
      rw [Option.some.inj heq] at hno
      exact absurd hasks hno
  · by_cases hnext : (f.locks.leave id').1 = some m
    · have hwaits := (ho.next_waits hw hin hid hnext).2
      have hasking : w'.place.isInside = true := by
        obtain ⟨-, visit, e, now, d, next, hplace⟩ := hasks
        rw [hplace]
        rfl
      constructor
      · intro heq
        obtain ⟨w₁, hw₁, hw'⟩ := Option.map_eq_some_iff.1 heq
        obtain ⟨-, visit, e, now, d, next, hplace⟩ := hasks
        rw [← hw'] at hplace
        simp only [hm, if_false, hnext, if_true] at hplace
        cases hplace
      · intro heq
        rw [hwaits w' heq] at hasking
        cases hasking
    · simp [hm, hnext]

/-- Somebody new is there, who asks for nothing yet. -/
theorem around {state : State Unit} {new : List Worker} (hrows : state.rows = f.state.rows)
    (hnew : ∀ w ∈ new, w.Arrives f.state) :
    Same id f { f with state, workers := f.workers ++ new } := by
  refine ⟨congrArg (Rows.find? · id) hrows, rfl, rfl, fun _ _ _ => Iff.rfl, ?_⟩
  intro n w hasks
  rw [List.getElem?_append]
  split
  · exact Iff.rfl
  · rename_i hlen
    rw [List.getElem?_eq_none (Nat.not_lt.1 hlen)]
    refine ⟨fun hadded => ?_, nofun⟩
    obtain ⟨-, visit, e, now, d, next, hplace⟩ := hasks
    rw [(hnew w (List.mem_of_getElem? hadded)).place] at hplace
    cases hplace

/-- A run of another enrollment begins. -/
theorem begins {id' : String} (hne : id ≠ id') (n : Nat) (errand : Errand) {ignore : Option Bool}
    {news : Option Lead} {result : Except Fault Begun} {state : State Unit}
    (hbegin : (begin_ c h id' ignore news).run f.state = (result, state)) :
    Same id f { f.note n id' errand with state } := by
  have hapart := begin_apart c h ignore news hne f.state
  unfold Op.after at hapart
  rw [hbegin] at hapart
  exact (Same.note f hne n errand).trans (Same.of_state hapart)

/-- A worker is done with a run of another enrollment. -/
theorem finish {n : Nat} {w : Worker} {id' : String} (ho : Orderly f) (hw : f.workers[n]? = some w)
    (hin : w.place.isInside = true) (hid : w.todo.head? = some id') (hne : id ≠ id')
    (rest : List String) (made : Except Fault Report) :
    Same id f (f.finish n id' rest made) := by
  have hsame : Same id f { f with results := f.results ++ [(n, made)] } :=
    ⟨rfl, rfl, rfl, fun _ _ _ => Iff.rfl, fun _ _ _ => Iff.rfl⟩
  exact hsame.trans (Same.leave (ho.congr rfl rfl) hw hin hid hne)

/-- A worker follows a plan for another enrollment. -/
theorem follow {n visit : Nat} {w : Worker} {e : Enrollment} {now : Moment} (ho : Orderly f)
    (hw : f.workers[n]? = some w) (hin : w.place.isInside = true)
    (hid : w.todo.head? = some e.id) (hsome : (f.row e.id).isSome = true) (hne : id ≠ e.id)
    (rest : List String) (plan : Plan (Except Fault Report)) :
    Same id f (f.follow c n e.id rest visit e now plan) := by
  have hno : ∀ place, ¬ ({ w with place } : Worker).AsksFor id := fun place hasks =>
    hne (Option.some.inj (hasks.1.symm.trans hid))
  rcases follow_cases c f n e.id rest visit e now plan with
    ⟨d, next, -, heq⟩ | ⟨result, r, -, heq⟩ <;> rw [heq]
  · exact (Same.asked f hne d).trans (Same.put hw (hno w.place) (hno _))
  · have hconclude : Same id f (f.conclude c e now result) :=
      Same.of_state (concluded_apart hne hsome)
    have ho₁ : Orderly (f.conclude c e now result) := ho.congr rfl rfl
    exact hconclude.trans (Same.finish ho₁ hw hin hid hne rest r)

end Same

/-- Other workers do not ask for an enrollment while one is at work for it. -/
theorem Orderly.not_asking (ho : Orderly f) {n m : Nat} {w w' : Worker}
    (hw : f.workers[n]? = some w) (hin : w.place.isInside = true) (hid : w.todo.head? = some id)
    (hw' : f.workers[m]? = some w') (hasks : w'.AsksFor id) : m = n := by
  obtain ⟨hid', visit, e, now, d, next, hplace⟩ := hasks
  exact ho.alone hw' hw (by rw [hplace]; rfl) hin hid' hid

/-! ### One enrollment at any moment -/

/-- A run of an enrollment that has begun: where its visit stands in the book, what it began with, and
the deliveries that were asked for; the replies to the last ones are pending. -/
structure Story (c : Config) (h : Bool) (start : State Replay) (f : Floor) (id : String)
    (visit : Nat) (v : Visit) (e : Enrollment) (now : Moment) (plan : Plan (Except Fault Report))
    (pending : List Delivery) : Prop where
  entry : f.book[visit]? = some v
  about : v.id = id
  last : ∀ (j : Nat) (v' : Visit), visit < j → f.book[j]? = some v' → v'.id ≠ id
  enrollment : e.id = id
  present : (f.row id).isSome = true
  begun : ∃ past ignore news t, f.visits id = past ++ [v] ∧ v.errand.orders = some (ignore, news) ∧
    (begin_ c h id ignore news).run (v.scene (inTurn c h past start)) =
      (.ok (.running e now plan), t) ∧
    t.rows.find? id = f.row id ∧
    f.calls id = (inTurn c h past start).world.2 ++ (plan.heard v.replies ++ pending).map (id, ·)

/-- Nobody waits for a reply on behalf of an enrollment, and it is as the visits to it leave it one
after the other. -/
structure Rested (c : Config) (h : Bool) (start : State Replay) (f : Floor) (id : String) : Prop where
  row : f.row id = (inTurn c h (f.visits id) start).rows.find? id
  calls : f.calls id = (inTurn c h (f.visits id) start).world.2
  nobody : ∀ (n : Nat) (w : Worker), f.workers[n]? = some w → ¬ w.AsksFor id

/-- A worker waits for a reply in the middle of a run. -/
structure Midway (c : Config) (h : Bool) (start : State Replay) (f : Floor) (id : String) (n : Nat)
    (w : Worker) (visit : Nat) (v : Visit) (e : Enrollment) (now : Moment)
    (plan : Plan (Except Fault Report)) (d : Delivery) (next : Reply → Plan (Except Fault Report)) :
    Prop where
  worker : f.workers[n]? = some w
  todo : w.todo.head? = some id
  place : w.place = .asking visit e now d next
  asks : plan.after v.replies = .ask d next
  story : Story c h start f id visit v e now plan [d]

/-- What is so of an enrollment at any moment. -/
def Serial (c : Config) (h : Bool) (start : State Replay) (f : Floor) (id : String) : Prop :=
  Rested c h start f id ∨ ∃ n w visit v e now plan d next,
    Midway c h start f id n w visit v e now plan d next

variable {start : State Replay}

theorem Story.same {visit : Nat} {v : Visit} {e : Enrollment} {now : Moment}
    {plan : Plan (Except Fault Report)} {pending : List Delivery}
    (hst : Story c h start f id visit v e now plan pending) (hs : Same id f f') :
    Story c h start f' id visit v e now plan pending := by
  refine ⟨(hs.entries visit v hst.about).2 hst.entry, hst.about, ?_, hst.enrollment, ?_, ?_⟩
  · intro j v' hj hv' hid
    exact hst.last j v' hj ((hs.entries j v' hid).1 hv') hid
  · rw [hs.row]
    exact hst.present
  · rw [hs.visits, hs.row, hs.calls]
    exact hst.begun

/-- **What does not concern an enrollment leaves it as it is.** -/
theorem Serial.same (hserial : Serial c h start f id) (hs : Same id f f') :
    Serial c h start f' id := by
  rcases hserial with hr | ⟨n, w, visit, v, e, now, plan, d, next, hm⟩
  · refine Or.inl ⟨?_, ?_, fun n w hw hasks => hr.nobody n w ((hs.asking n w hasks).1 hw) hasks⟩
    · rw [hs.row, hs.visits]
      exact hr.row
    · rw [hs.calls, hs.visits]
      exact hr.calls
  · refine Or.inr ⟨n, w, visit, v, e, now, plan, d, next, ?_, hm.todo, hm.place, hm.asks,
      hm.story.same hs⟩
    exact (hs.asking n w ⟨hm.todo, visit, e, now, d, next, hm.place⟩).2 hm.worker

/-- Nobody asks for an enrollment after the worker at work for it has let go of the lock. -/
theorem nobody_after_leave (ho : Orderly f) {n : Nat} {w : Worker} (hw : f.workers[n]? = some w)
    (hin : w.place.isInside = true) (hid : w.todo.head? = some id) (todo : List String) {m : Nat}
    {w' : Worker} (hw' : (f.leave n id todo).workers[m]? = some w') : ¬ w'.AsksFor id := by
  rintro ⟨hid', visit, e, now, d, next, hplace⟩
  rw [workers_leave] at hw'
  obtain ⟨w₀, hw₀, rfl⟩ := Option.map_eq_some_iff.1 hw'
  dsimp only at hid' hplace
  by_cases hnext : (f.locks.leave id).1 = some m
  · rw [if_pos hnext] at hplace
    cases hplace
  · rw [if_neg hnext] at hid' hplace
    by_cases hm : n = m
    · rw [if_pos hm] at hplace
      cases hplace
    · rw [if_neg hm] at hid' hplace
      exact hm (ho.not_asking hw hin hid hw₀ ⟨hid', visit, e, now, d, next, hplace⟩).symm

theorem finish_fields (f : Floor) (n : Nat) (id : String) (rest : List String)
    (r : Except Fault Report) : (f.finish n id rest r).state = f.state ∧
      (f.finish n id rest r).asked = f.asked ∧ (f.finish n id rest r).book = f.book := by
  obtain ⟨hstate, -, hasked, hbook, -⟩ := leave_fields { f with results := f.results ++ [(n, r)] } n
    id (if Floor.goesOn r then rest else [])
  exact ⟨hstate, hasked, hbook⟩

/-- **A run that has begun goes on**: it asks for its next delivery, or it is over and was as if done
in turn. -/
theorem Story.follow (ho : Orderly f) {n visit : Nat} {w : Worker} {v : Visit} {e : Enrollment}
    {now : Moment} {plan : Plan (Except Fault Report)}
    (hst : Story c h start f id visit v e now plan []) (hw : f.workers[n]? = some w)
    (hin : w.place.isInside = true) (hid : w.todo.head? = some id) (rest : List String) :
    Serial c h start (f.follow c n id rest visit e now (plan.after v.replies)) id := by
  obtain ⟨past, ignore, news, t, hvisits, horders, hbegin, hrow, hcalls⟩ := hst.begun
  rcases follow_cases c f n id rest visit e now (plan.after v.replies) with
    ⟨d, next, hask, heq⟩ | ⟨result, r, hdone, heq⟩ <;> rw [heq]
  · have hput : ({ f with asked := f.asked ++ [(id, d)] }.put n
        (.asking visit e now d next)).calls id = f.calls id ++ [(id, d)] := by
      unfold Floor.calls Floor.put
      dsimp only
      rw [List.filter_append]
      simp
    refine Or.inr ⟨n, { w with place := .asking visit e now d next }, visit, v, e, now, plan, d, next,
      ?_, hid, rfl, hask, hst.entry, hst.about, hst.last, hst.enrollment, hst.present, ?_⟩
    · rw [workers_put, show _ = some w from hw, Option.map_some, if_pos rfl]
    · refine ⟨past, ignore, news, t, hvisits, horders, hbegin, hrow, ?_⟩
      rw [hput, hcalls, List.append_nil, List.map_append, List.append_assoc]
      rfl
  · -- what the plan came to is recorded in a row that is the same in both
    obtain ⟨hstate, hasked, hbook⟩ := finish_fields (f.conclude c e now result) n id rest r
    have hvisits' : ((f.conclude c e now result).finish n id rest r).visits id = past ++ [v] := by
      unfold Floor.visits
      rw [hbook]
      exact hvisits
    obtain rfl := hst.about
    have hsome : (t.rows.find? e.id).isSome = true := by
      rw [hst.enrollment, hrow]
      exact hst.present
    obtain ⟨halone, hlog⟩ := alone_concluded horders hbegin hdone hsome
    rw [hst.enrollment] at halone
    refine Or.inl ⟨?_, ?_, ?_⟩
    · rw [hvisits', inTurn_concat, halone]
      unfold Floor.row
      rw [hstate]
      have hsame : (f.conclude c e now result).state.rows.find? e.id = _ :=
        concluded_row (by rw [hst.enrollment]; exact hrow.symm) hsome
      rw [hst.enrollment] at hsame
      exact hsame
    · rw [hvisits', inTurn_concat, hlog]
      unfold Floor.calls
      rw [hasked]
      rw [List.append_nil] at hcalls
      exact hcalls
    · intro m w' hw'
      have ho' : Orderly { f.conclude c e now result with
          results := (f.conclude c e now result).results ++ [(n, r)] } := ho.congr rfl rfl
      exact nobody_after_leave ho' hw hin hid _ hw'

/-- An enrollment for which a worker has the lock but has not begun is at rest. -/
theorem Serial.rested (ho : Orderly f) (hserial : Serial c h start f id) {n : Nat} {w : Worker}
    (hw : f.workers[n]? = some w) (hplace : w.place = .admitted) (hid : w.todo.head? = some id) :
    Rested c h start f id := by
  rcases hserial with hr | ⟨m, w', visit, v, e, now, plan, d, next, hm⟩
  · exact hr
  · obtain rfl := ho.not_asking hw (by rw [hplace]; rfl) hid hm.worker
      ⟨hm.todo, visit, e, now, d, next, hm.place⟩
    have hworker := hm.worker
    rw [hw] at hworker
    cases hworker
    have hasking := hm.place
    rw [hplace] at hasking
    cases hasking

/-- A worker that waits for a reply is the one that is known to be in the middle of a run. -/
theorem Serial.midway (ho : Orderly f) (hserial : Serial c h start f id) {n visit : Nat} {w : Worker}
    {e : Enrollment} {now : Moment} {d : Delivery} {next : Reply → Plan (Except Fault Report)}
    (hw : f.workers[n]? = some w) (hid : w.todo.head? = some id)
    (hplace : w.place = .asking visit e now d next) :
    ∃ v plan, Midway c h start f id n w visit v e now plan d next := by
  have hasks : w.AsksFor id := ⟨hid, visit, e, now, d, next, hplace⟩
  rcases hserial with hr | ⟨m, w', visit', v, e', now', plan, d', next', hm⟩
  · exact absurd hasks (hr.nobody n _ hw)
  · obtain rfl := ho.not_asking hw (by rw [hplace]; rfl) hid hm.worker
      ⟨hm.todo, visit', e', now', d', next', hm.place⟩
    obtain rfl := Option.some.inj (hw.symm.trans hm.worker)
    have hsame := hm.place
    rw [hplace] at hsame
    cases hsame
    exact ⟨v, plan, hm⟩

/-- The visit that a worker puts into the book. -/
def Floor.found (f : Floor) (n : Nat) (id : String) (errand : Errand) : Visit :=
  ⟨n, id, errand, f.state.files, f.state.clock, []⟩

theorem visits_note (f : Floor) (n : Nat) (id : String) (errand : Errand) :
    (f.note n id errand).visits id = f.visits id ++ [f.found n id errand] := by
  unfold Floor.visits Floor.note Floor.found
  dsimp only
  rw [List.filter_append]
  simp

/-- An enrollment at rest looks the same to a worker that begins and to its visit in turn. -/
theorem Rested.alike (hr : Rested c h start f id) (n : Nat) (errand : Errand) :
    Alike False id f.state
      ((f.found n id errand).scene (inTurn c h (f.visits id) start)) :=
  ⟨rfl, rfl, hr.row.symm, False.elim⟩

/-- **A worker that deletes an enrollment does so in turn.** -/
theorem Rested.deletes (ho : Orderly f) (hr : Rested c h start f id) {n : Nat} {w : Worker}
    (hw : f.workers[n]? = some w) (hin : w.place.isInside = true) (hid : w.todo.head? = some id)
    {errand : Errand} (horders : errand.orders = none) (rest : List String) :
    Serial c h start (((f.note n id errand).operate (Service.delete id)).leave n id rest) id := by
  obtain ⟨hstate, -, hasked, hbook, -⟩ :=
    leave_fields ((f.note n id errand).operate (Service.delete id)) n id rest
  have halone : (f.found n id errand).alone c h (inTurn c h (f.visits id) start) =
      (Service.delete id).after ((f.found n id errand).scene (inTurn c h (f.visits id) start)) :=
    alone_of_no_orders horders _
  have hvisits : (((f.note n id errand).operate (Service.delete id)).leave n id rest).visits id =
      f.visits id ++ [f.found n id errand] := by
    rw [← visits_note]
    unfold Floor.visits
    rw [hbook]
    rfl
  have ho' : Orderly ((f.note n id errand).operate (Service.delete id)) := ho.congr rfl rfl
  refine Or.inl ⟨?_, ?_, fun m w' hw' => nobody_after_leave ho' hw hin hid rest hw'⟩
  · rw [hvisits, inTurn_concat, halone]
    unfold Floor.row
    rw [hstate]
    have hgone : ∀ {σ : Type} (s : State σ),
        ((Service.delete id : Op σ Bool).after s).rows.find? id = none := by
      intro σ s
      rw [delete_after, Enrollment.find?_filter, if_pos rfl]
    exact (hgone f.state).trans (hgone _).symm
  · rw [hvisits, inTurn_concat, halone]
    unfold Floor.calls
    rw [hasked]
    exact hr.calls

/-- **A worker that has nobody to ask is done in turn.** -/
theorem Rested.ends (ho : Orderly f) (hr : Rested c h start f id) {n : Nat} {w : Worker}
    (hw : f.workers[n]? = some w) (hin : w.place.isInside = true) (hid : w.todo.head? = some id)
    {errand : Errand} {ignore : Option Bool} {news : Option Lead} {made : Except Fault Report}
    {state : State Unit} (horders : errand.orders = some (ignore, news))
    (hbegin : (begin_ c h id ignore news).run f.state = (made.map .finished, state))
    (rest : List String) :
    Serial c h start ({ f.note n id errand with state }.finish n id rest made) id := by
  obtain ⟨hstate, hasked, hbook⟩ := finish_fields { f.note n id errand with state } n id rest made
  obtain ⟨t, ht, hafter⟩ := (begin_agrees c h ignore news (hr.alike n errand)).ran hbegin
  have halone : (f.found n id errand).alone c h (inTurn c h (f.visits id) start) = t :=
    alone_over horders ht
  have hworld := begin_world c h id ignore news
    ((f.found n id errand).scene (inTurn c h (f.visits id) start))
  unfold Op.after at hworld
  rw [ht] at hworld
  have hvisits : ({ f.note n id errand with state }.finish n id rest made).visits id =
      f.visits id ++ [f.found n id errand] := by
    rw [← visits_note]
    unfold Floor.visits
    rw [hbook]
  refine Or.inl ⟨?_, ?_, fun m w' hw' => ?_⟩
  · rw [hvisits, inTurn_concat, halone]
    unfold Floor.row
    rw [hstate]
    exact hafter.row.symm
  · rw [hvisits, inTurn_concat, halone]
    unfold Floor.calls
    rw [hasked]
    exact hr.calls.trans (congrArg Prod.snd hworld).symm
  · have ho' : Orderly { { f.note n id errand with state } with
        results := (f.note n id errand).results ++ [(n, made)] } := ho.congr rfl rfl
    exact nobody_after_leave ho' hw hin hid _ hw'

/-- **A worker that begins a run begins it in turn.** -/
theorem Rested.starts (hr : Rested c h start f id) (n : Nat) {errand : Errand}
    {ignore : Option Bool} {news : Option Lead} {e : Enrollment} {now : Moment}
    {plan : Plan (Except Fault Report)} {state : State Unit}
    (horders : errand.orders = some (ignore, news))
    (hbegin : (begin_ c h id ignore news).run f.state = (.ok (.running e now plan), state)) :
    Story c h start { f.note n id errand with state } id f.book.length (f.found n id errand) e now
      plan [] := by
  obtain ⟨t, ht, hafter⟩ := (begin_agrees c h ignore news (hr.alike n errand)).ran hbegin
  cases begins_of_run hbegin with
  | ready hfound hready =>
    refine ⟨List.getElem?_concat_length, rfl, ?_, hfound.ids.1, hfound.told_isSome, ?_⟩
    · intro j v' hj hv'
      have hnone : (f.note n id errand).book[j]? = none :=
        List.getElem?_eq_none (by simp [Floor.note]; omega)
      rw [show (f.note n id errand).book[j]? = some v' from hv'] at hnone
      cases hnone
    · refine ⟨f.visits id, ignore, news, t, visits_note f n id errand, horders, ht,
        hafter.row, ?_⟩
      rw [show (f.found n id errand).replies = [] from rfl, Plan.heard_nil, List.nil_append,
        List.map_nil, List.append_nil]
      exact hr.calls

/-- A reply is noted with the last visit to its enrollment. -/
theorem visits_noteReply {visit : Nat} {v : Visit} {past : List Visit}
    (hv : f.book[visit]? = some v) (hid : v.id = id)
    (hlast : ∀ (j : Nat) (v' : Visit), visit < j → f.book[j]? = some v' → v'.id ≠ id)
    (hvisits : f.visits id = past ++ [v]) (r : Reply) :
    (f.noteReply visit r).visits id = past ++ [{ v with replies := v.replies ++ [r] }] := by
  obtain ⟨hlt, hget⟩ := List.getElem?_eq_some_iff.1 hv
  have hbook : f.book = f.book.take visit ++ v :: f.book.drop (visit + 1) := by
    rw [← hget, List.getElem_cons_drop, List.take_append_drop]
  have hdrop : (f.book.drop (visit + 1)).filter (fun v' => v'.id = id) = [] := by
    rw [List.filter_eq_nil_iff]
    intro v' hv'
    obtain ⟨j, hj⟩ := List.getElem?_of_mem hv'
    rw [List.getElem?_drop] at hj
    simpa using hlast _ v' (by omega) hj
  have hpast : (f.book.take visit).filter (fun v' => v'.id = id) = past := by
    unfold Floor.visits at hvisits
    rw [hbook, List.filter_append, List.filter_cons_of_pos (by simpa using hid), hdrop] at hvisits
    exact (List.append_inj' hvisits rfl).1
  unfold Floor.visits Floor.noteReply
  dsimp only
  rw [List.modify_eq_take_cons_drop hlt, hget, List.filter_append,
    List.filter_cons_of_pos (by simpa using hid), hdrop, hpast]

/-- **A worker in the middle of a run hears the reply that it waits for.** -/
theorem Midway.hears {n visit : Nat} {w : Worker} {v : Visit} {e : Enrollment} {now : Moment}
    {plan : Plan (Except Fault Report)} {d : Delivery} {next : Reply → Plan (Except Fault Report)}
    (hm : Midway c h start f id n w visit v e now plan d next) (r : Reply) :
    Story c h start (f.noteReply visit r) id visit { v with replies := v.replies ++ [r] } e now plan
      [] := by
  obtain ⟨past, ignore, news, t, hvisits, horders, hbegin, hrow, hcalls⟩ := hm.story.begun
  refine ⟨?_, hm.story.about, ?_, hm.story.enrollment, hm.story.present, ?_⟩
  · unfold Floor.noteReply
    dsimp only
    rw [List.getElem?_modify_eq, hm.story.entry]
    rfl
  · intro j v' hj hv'
    unfold Floor.noteReply at hv'
    dsimp only at hv'
    rw [List.getElem?_modify] at hv'
    obtain ⟨v₀, hv₀, heq⟩ := Option.map_eq_some_iff.1 hv'
    rw [if_neg (Nat.ne_of_lt hj)] at heq
    rw [← heq]
    exact hm.story.last j v₀ hj hv₀
  · -- what leads up to the plan does not depend on replies
    have halike : Alike False id (v.scene (inTurn c h past start))
        (({ v with replies := v.replies ++ [r] } : Visit).scene (inTurn c h past start)) :=
      ⟨rfl, rfl, rfl, False.elim⟩
    obtain ⟨t', ht', hafter⟩ := (begin_agrees c h ignore news halike).ran hbegin
    refine ⟨past, ignore, news, t', visits_noteReply hm.story.entry hm.story.about hm.story.last
      hvisits r, horders, ht', hafter.row.trans hrow, ?_⟩
    show f.calls id = _
    rw [hcalls, (Plan.hear_one hm.asks r).2, List.append_nil]

/-- **Every move leaves each enrollment as if done in turn.** -/
theorem Serial.of_moved (ho : Orderly f) (hmoved : Moved c h f f')
    (hserial : ∀ id, Serial c h start f id) : ∀ id, Serial c h start f' id := by
  intro id
  cases hmoved with
  | around hrows _ hnew => exact (hserial id).same (.around hrows hnew)
  | comes hw =>
    rename_i n errand ids rest id' timers _
    have hlock : Same id f { f with
        state := { f.state with timers }
        locks := (f.locks.enter id' n).2 } := Same.of_state rfl
    refine (hserial id).same (hlock.trans (Same.put hw ?_ ?_))
    · rintro ⟨-, visit, e, now, d, next, hplace⟩
      cases hplace
    · rintro ⟨-, visit, e, now, d, next, hplace⟩
      dsimp only at hplace
      split at hplace <;> cases hplace
  | deletes hw horders =>
    rename_i n errand ids rest id'
    by_cases hid : id = id'
    · subst hid
      exact ((hserial id).rested ho hw rfl rfl).deletes ho hw rfl rfl horders rest
    · refine (hserial id).same ((Same.note f hid n errand).trans ?_)
      refine Same.trans (Same.of_state ?_) (Same.leave (ho.congr rfl rfl) hw rfl rfl hid)
      exact (delete_apart hid (f.note n id' errand).state).row
  | ends hw horders hbegin =>
    rename_i n errand ids rest id' ignore news made state
    by_cases hid : id = id'
    · subst hid
      exact ((hserial id).rested ho hw rfl rfl).ends ho hw rfl rfl horders hbegin rest
    · have ho₁ : Orderly { f.note n id' errand with state } := ho.congr rfl rfl
      have hsame : Same id f { f.note n id' errand with state } := .begins hid n errand hbegin
      exact (hserial id).same (hsame.trans (.finish ho₁ hw rfl rfl hid rest made))
  | starts hw horders hbegin =>
    rename_i n errand ids rest id' ignore news e now plan state
    have hstory := ((hserial id').rested ho hw rfl rfl).starts n horders hbegin
    have ho₁ : Orderly { f.note n id' errand with state } := ho.congr rfl rfl
    by_cases hid : id = id'
    · subst hid
      have hfollow := hstory.follow ho₁ hw rfl rfl rest
      rwa [show (f.found n id errand).replies = [] from rfl, Plan.after_nil] at hfollow
    · have hsame : Same id f { f.note n id' errand with state } := .begins hid n errand hbegin
      obtain rfl := hstory.enrollment
      exact (hserial id).same (hsame.trans (.follow ho₁ hw rfl rfl hstory.present hid rest plan))
  | hears hw =>
    rename_i n errand ids rest id' visit e now d next reply
    obtain ⟨v, plan, hm⟩ := (hserial id').midway ho hw rfl rfl
    have ho₁ : Orderly (f.noteReply visit reply) := ho.congr rfl rfl
    by_cases hid : id = id'
    · subst hid
      have hfollow := (hm.hears reply).follow ho₁ hw rfl rfl rest
      rwa [(Plan.hear_one hm.asks reply).1] at hfollow
    · have hother : v.id ≠ id := by
        rw [hm.story.about]
        exact Ne.symm hid
      have hsame := Same.noteReply f hm.story.entry hother reply
      obtain rfl := hm.story.enrollment
      exact (hserial id).same
        (hsame.trans (.follow ho₁ hw rfl rfl hm.story.present hid rest (next reply)))

/-! ### All that is played -/

/-- What is so after any moves: the floor is in order, all have their turns, and every enrollment is
as if done in turn. -/
structure Played (c : Config) (h : Bool) (start : State Replay) (f : Floor) : Prop where
  orderly : Orderly f
  booked : Booked f
  serial : ∀ id, Serial c h start f id

namespace Played

theorem idle (s : State Unit) : Played c h (s.withWorld ([], [])) (.idle s) :=
  ⟨.idle s, .idle s, fun _ => Or.inl ⟨rfl, rfl, fun _ _ hw => by cases hw⟩⟩

theorem move (hp : Played c h start f) (m : Move) : Played c h start (f.move c h m) :=
  ⟨hp.orderly.move m, hp.booked.of_moved hp.orderly (moved f m),
    Serial.of_moved hp.orderly (moved f m) hp.serial⟩

theorem play (hp : Played c h start f) (moves : List Move) :
    Played c h start (f.play c h moves) := by
  induction moves generalizing f with
  | nil => exact hp
  | cons m moves ih => exact ih (hp.move m)

/-- When nobody has anything to do, every enrollment is as the visits to it leave it. -/
theorem rested (hp : Played c h start f) (hdone : ∀ w ∈ f.workers, w.todo = []) (id : String) :
    Rested c h start f id := by
  rcases hp.serial id with hr | ⟨n, w, visit, v, e, now, plan, d, next, hm⟩
  · exact hr
  · have htodo := hm.todo
    rw [hdone w (List.mem_of_getElem? hm.worker)] at htodo
    cases htodo

/-- The row of an enrollment is there as long as somebody is in the middle of a run of it. -/
theorem present (hp : Played c h start f) {n visit : Nat} {w : Worker} {e : Enrollment}
    {now : Moment} {d : Delivery} {next : Reply → Plan (Except Fault Report)}
    (hw : f.workers[n]? = some w) (hplace : w.place = .asking visit e now d next) :
    (f.state.rows.find? e.id).isSome = true := by
  have hin : w.place.isInside = true := by
    rw [hplace]
    rfl
  obtain ⟨id, hid, -⟩ := hp.orderly.first hw hin
  have hasks : w.AsksFor id := ⟨hid, visit, e, now, d, next, hplace⟩
  rcases hp.serial id with hr | ⟨m, w', visit', v, e', now', plan, d', next', hm⟩
  · exact absurd hasks (hr.nobody n w hw)
  · obtain rfl := hp.orderly.not_asking hw hin hid hm.worker
      ⟨hm.todo, visit', e', now', d', next', hm.place⟩
    have hworker := hm.worker
    rw [hw] at hworker
    cases hworker
    have hsame := hm.place
    rw [hplace] at hsame
    cases hsame
    rw [hm.story.enrollment]
    exact hm.story.present

end Played

/-- **Work on one enrollment is serializable.** However the moves of any number of workers are mixed:

* when all are done, the row of each enrollment, with its steps, and the deliveries that were asked
  for on its behalf are those of the visits to it one after the other, in the order in which the
  workers had the lock, each with the workflows, the clock and the replies that it found;
* the visits of a worker that is done are those that it came for, polls apart, and all visits are by
  workers;
* whoever is in the middle of a run could record any report at any time. -/
theorem serializable (c : Config) (h : Bool) (s : State Unit) (moves : List Move) :
    let f := (Floor.idle s).play c h moves
    let start : State Replay := s.withWorld ([], [])
    ((∀ w ∈ f.workers, w.todo = []) → ∀ id,
      f.row id = (inTurn c h (f.visits id) start).rows.find? id ∧
        f.calls id = (inTurn c h (f.visits id) start).world.2) ∧
    (∀ n w, f.workers[n]? = some w → w.todo = [] → w.errand ≠ .poll →
      f.turnsOf n = w.ids.map (·, w.errand)) ∧
    (∀ v ∈ f.book, v.worker < f.workers.length) ∧
    ∀ w ∈ f.workers, ∀ visit e now d next, w.place = .asking visit e now d next →
      ∀ steps (status : Enrollment.Status) completedAt resumeAt, ∃ rows,
        f.state.rows.recordRun e.id steps status.name completedAt resumeAt = .ok rows := by
  intro f start
  have hp : Played c h start f := (Played.idle s).play moves
  refine ⟨fun hdone id => ?_, fun n w hw htodo hpoll => hp.booked.done hw htodo hpoll, ?_, ?_⟩
  · have hr := hp.rested hdone id
    exact ⟨hr.row, hr.calls⟩
  · intro v hv
    exact hp.booked.known (v.worker, v.id, v.errand) (List.mem_map.2 ⟨v, hv, rfl⟩)
  · intro w hw visit e now d next hplace steps status completedAt resumeAt
    obtain ⟨n, hn⟩ := List.getElem?_of_mem hw
    exact ⟨_, Enrollment.recordRun_eq_ok (hp.present hn hplace) steps status completedAt resumeAt⟩

/-- The enrollment that a worker is in the middle of a run of. -/
def Worker.running (w : Worker) : Option String :=
  match w.place with
  | .asking _ e _ _ _ => some e.id
  | _ => none

/-- A timer rings while its enrollment is advanced and deleted, and another one is advanced. -/
def Sample.rush : List Move :=
  [.ring "enrollment-1", .advance "enrollment-1" none none, .advance "enrollment-2" none none,
    .delete "enrollment-1", .come 0, .come 1, .come 2, .begin_ 0, .begin_ 2, .come 3,
    .hear 2 (.returned (.obj [])), .hear 0 (.returned (.obj [])), .begin_ 1, .begin_ 3]

/-- The floor after some moves of the rush. -/
def Sample.rushed (moves : Nat) : Floor :=
  (Floor.idle (carry Sample.config Sample.collaborators Sample.pair Sample.started)).play
    Sample.config true (Sample.rush.take moves)

/-- In the rush three have their turns with an enrollment, the last of them to delete it; the row is
there as long as the first is at work. -/
theorem serializable_rush :
    (((Sample.rushed 14).visits "enrollment-1").map (fun v => (v.worker, v.replies.length)) =
        [(0, 1), (1, 0), (3, 0)] ∧ ((Sample.rushed 14).calls "enrollment-1").length = 1 ∧
      (Sample.rushed 14).row "enrollment-1" = none) ∧
    (Sample.rushed 14).row "enrollment-2" =
      (inTurn Sample.config true ((Sample.rushed 14).visits "enrollment-2")
        ((carry Sample.config Sample.collaborators Sample.pair Sample.started).withWorld
          ([], []))).rows.find? "enrollment-2" ∧
    (Sample.rushed 14).turnsOf 3 = [("enrollment-1", .delete)] ∧
    ∃ rows, (Sample.rushed 11).state.rows.recordRun "enrollment-1" [] "success" none none =
      .ok rows := by
  have hend := serializable Sample.config true
    (carry Sample.config Sample.collaborators Sample.pair Sample.started) (Sample.rush.take 14)
  have hmid := serializable Sample.config true
    (carry Sample.config Sample.collaborators Sample.pair Sample.started) (Sample.rush.take 11)
  change (((∀ w ∈ (Sample.rushed 14).workers, _) → _) ∧
    (∀ n w, (Sample.rushed 14).workers[n]? = _ → _) ∧ _) at hend
  change (_ ∧ _ ∧ _ ∧ ∀ w ∈ (Sample.rushed 11).workers, _) at hmid
  have hfound : ((((Sample.rushed 14).visits "enrollment-1").map fun v =>
        (v.worker, v.replies.length)) = [(0, 1), (1, 0), (3, 0)] ∧
      ((Sample.rushed 14).calls "enrollment-1").length = 1 ∧
      (Sample.rushed 14).row "enrollment-1" = none) ∧
      ((Sample.rushed 14).workers.map fun w => (w.errand, w.ids, w.todo)) =
        [(.ring, ["enrollment-1"], []), (.advance none none, ["enrollment-1"], []),
          (.advance none none, ["enrollment-2"], []), (.delete, ["enrollment-1"], [])] ∧
      ((Sample.rushed 11).workers[0]?).bind Worker.running = some "enrollment-1" := by
    decide +kernel
  obtain ⟨hvisits, htodo, hfirst⟩ := hfound
  refine ⟨hvisits, (hend.1 ?_ "enrollment-2").1, ?_, ?_⟩
  · intro w hw
    have hmem := List.mem_map_of_mem (f := fun w : Worker => (w.errand, w.ids, w.todo)) hw
    rw [htodo] at hmem
    simp only [List.mem_cons, Prod.mk.injEq, List.not_mem_nil, or_false] at hmem
    rcases hmem with h | h | h | h <;> exact h.2.2
  · have hlast := congrArg (·[3]?) htodo
    simp only [List.getElem?_map] at hlast
    obtain ⟨w, hw, heq⟩ := Option.map_eq_some_iff.1 hlast
    obtain ⟨herrand, hids, hnil⟩ : w.errand = .delete ∧ w.ids = ["enrollment-1"] ∧ w.todo = [] := by
      simpa using heq
    have hdone := hend.2.1 3 w hw hnil (by rw [herrand]; decide)
    rw [herrand, hids] at hdone
    exact hdone
  · obtain ⟨w, hw, hrunning⟩ := Option.bind_eq_some_iff.1 hfirst
    unfold Worker.running at hrunning
    split at hrunning
    · rename_i visit e now d next hplace
      rw [← Option.some.inj hrunning]
      exact hmid.2.2.2 w (List.mem_of_getElem? hw) visit e now d next hplace [] .success none none
    · cases hrunning

/-! ### Advances that come together -/

namespace Hall

variable {σ : Type} {k : Collaborators σ}

theorem goOn_floor (hall : Hall σ) (task : Nat) (id : String) :
    (hall.goOn task id).floor = hall.floor := by
  unfold goOn
  split
  · rfl
  · split <;> rfl

theorem proceed_floor (hall : Hall σ) (h : Bool) (task : Nat) (m : Move) :
    (hall.proceed c h task m).floor = hall.floor.move c h m := goOn_floor _ task _

/-- In one turn an advance makes at most two moves. -/
theorem handle_plays (hall : Hall σ) (e : Event) : ∃ moves,
    (hall.handle c k e).floor = hall.floor.play c k.handsOver moves := by
  cases e with
  | arrive task =>
    unfold handle
    dsimp only
    split
    · exact ⟨[.come task, .begin_ task], proceed_floor _ _ task _⟩
    · exact ⟨[.come task], rfl⟩
  | granted task => exact ⟨[.begin_ task], proceed_floor hall _ task _⟩
  | call task =>
    refine ⟨[], ?_⟩
    unfold handle
    dsimp only
    split
    · split <;> rfl
    · rfl
  | settle task => exact ⟨[], rfl⟩
  | wake task => exact ⟨[.hear task _], proceed_floor hall _ task _⟩

theorem run_plays (turns : Nat) (hall : Hall σ) : ∃ moves,
    (hall.run c k turns).floor = hall.floor.play c k.handsOver moves := by
  induction turns generalizing hall with
  | zero => exact ⟨[], rfl⟩
  | succ turns ih =>
    unfold run
    cases hstep : hall.step c k with
    | none => exact ⟨[], rfl⟩
    | some next =>
      have hnext : ∃ (e : Event) (hall' : Hall σ), hall'.floor = hall.floor ∧
          next = hall'.handle c k e := by
        unfold step at hstep
        split at hstep
        · rename_i e queue _
          exact ⟨e, { hall with queue }, rfl, (Option.some.inj hstep).symm⟩
        · rename_i task hung _ _
          exact ⟨.wake task, { hall with hung }, rfl, (Option.some.inj hstep).symm⟩
        · cases hstep
      obtain ⟨e, hall', hfloor, rfl⟩ := hnext
      obtain ⟨moves, hrun⟩ := ih (hall'.handle c k e)
      obtain ⟨first, hfirst⟩ := handle_plays (c := c) (k := k) hall' e
      refine ⟨first ++ moves, hrun.trans ?_⟩
      rw [hfirst, hfloor]
      exact List.foldl_append.symm

/-- **Advances that come together follow one of the orders of moves**, so what is so after any moves
is so at each of their turns. -/
theorem played (s : State σ) (ids : List String) (turns : Nat) :
    Played c k.handsOver (s.withWorld ([], [])) ((opening c k s ids).run c k turns).floor := by
  obtain ⟨moves, hrun⟩ := run_plays (c := c) (k := k) turns (opening c k s ids)
  rw [hrun]
  exact ((Played.idle (s.withWorld ())).play _).play moves

end Hall

end Service
end Cadence
