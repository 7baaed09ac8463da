/-
# Who works has the lock

Everything that can happen on a floor is listed once, as the relation `Moved` between floors; `moved`
shows that the list is complete. A worker that goes on either asks for its next delivery or is done
with its enrollment and lets go of the lock (`follow_cases`).

Locks keep workers apart: whoever is at work for an enrollment is the first one in the line for its
lock, and whoever waits for it stands in that line (`Orderly`). So two workers are never at work for
one enrollment (`Orderly.alone`), whatever the order in which they move.

Key definitions: `Moved`, `Place.isInside`, `Orderly`.
Key theorems: `moved`, `follow_cases`, `Orderly.move`, `Orderly.alone`.
-/
import Cadence.Proofs.Lock.Table
import Cadence.Proofs.Service.Run
import Cadence.Service.Floor

namespace Cadence
namespace Service

open Time

/-- Whether a worker at a place has the lock of its enrollment. -/
def Place.isInside : Place → Bool
  | .admitted => true
  | .asking .. => true
  | _ => false

variable {c : Config} {h : Bool} {f f' : Floor}

/-! ### All that can happen -/

/-- Somebody new is there: it has everything to do yet, and but for polls that is one enrollment.
What rings was set, and what a poll found was due. -/
structure Worker.Arrives (s : State Unit) (w : Worker) : Prop where
  place : w.place = .outside
  todo : w.todo = w.ids
  single : w.errand ≠ .poll → ∃ id, w.ids = [id]
  rings : w.errand = .ring → ∀ id ∈ w.ids, ∃ job ∈ s.timers.jobs, job.id = id
  polls : w.errand = .poll → ∃ now, s.rows.dueAt now = .ok w.ids

/-- Everything that a move can do. -/
inductive Moved (c : Config) (h : Bool) (f : Floor) : Floor → Prop
  | around {state : State Unit} {new : List Worker} : state.rows = f.state.rows →
      state.timers.jobs ⊆ f.state.timers.jobs → (∀ w ∈ new, w.Arrives f.state) →
      Moved c h f { f with state, workers := f.workers ++ new }
  | comes {n : Nat} {errand : Errand} {ids rest : List String} {id : String} {timers : Timers} :
      f.workers[n]? = some ⟨errand, ids, id :: rest, .outside⟩ →
      timers.jobs ⊆ f.state.timers.jobs →
      Moved c h f ({ f with
        state := { f.state with timers }
        locks := (f.locks.enter id n).2 }.put n
          (if (f.locks.enter id n).1.2 then .admitted else .waiting))
  | deletes {n : Nat} {errand : Errand} {ids rest : List String} {id : String} :
      f.workers[n]? = some ⟨errand, ids, id :: rest, .admitted⟩ → errand.orders = none →
      Moved c h f (((f.note n id errand).operate (Service.delete id)).leave n id rest)
  | ends {n : Nat} {errand : Errand} {ids rest : List String} {id : String}
      {ignore : Option Bool} {news : Option Lead} {made : Except Fault Report}
      {state : State Unit} :
      f.workers[n]? = some ⟨errand, ids, id :: rest, .admitted⟩ →
      errand.orders = some (ignore, news) →
      (Service.begin_ c h id ignore news).run f.state = (made.map .finished, state) →
      Moved c h f ({ f.note n id errand with state }.finish n id rest made)
  | starts {n : Nat} {errand : Errand} {ids rest : List String} {id : String}
      {ignore : Option Bool} {news : Option Lead} {e : Enrollment} {now : Moment}
      {plan : Plan (Except Fault Report)} {state : State Unit} :
      f.workers[n]? = some ⟨errand, ids, id :: rest, .admitted⟩ →
      errand.orders = some (ignore, news) →
      (Service.begin_ c h id ignore news).run f.state = (.ok (.running e now plan), state) →
      Moved c h f ({ f.note n id errand with state }.follow c n id rest f.book.length e now plan)
  | hears {n : Nat} {errand : Errand} {ids rest : List String} {id : String} {visit : Nat}
      {e : Enrollment} {now : Moment} {d : Delivery} {next : Reply → Plan (Except Fault Report)}
      {reply : Reply} :
      f.workers[n]? = some ⟨errand, ids, id :: rest, .asking visit e now d next⟩ →
      Moved c h f ((f.noteReply visit reply).follow c n id rest visit e now (next reply))

/-- Nothing happens. -/
theorem Moved.still (c : Config) (h : Bool) (f : Floor) : Moved c h f f := by
  have hmoved : Moved c h f { f with state := f.state, workers := f.workers ++ [] } :=
    .around rfl (List.Subset.refl _) fun _ hw => absurd hw List.not_mem_nil
  rwa [List.append_nil] at hmoved

/-- Somebody new is there, and the timers are the same or fewer. -/
theorem Moved.adds (c : Config) (h : Bool) (f : Floor) {timers : Timers} {errand : Errand}
    {ids : List String} (hjobs : timers.jobs ⊆ f.state.timers.jobs)
    (hnew : (⟨errand, ids, ids, .outside⟩ : Worker).Arrives f.state) :
    Moved c h f (Floor.add { f with state := { f.state with timers } } errand ids) := by
  refine .around rfl hjobs fun w hw => ?_
  rw [List.mem_singleton.1 hw]
  exact hnew

/-- The workflows or the clock change. -/
theorem Moved.changes (c : Config) (h : Bool) (f : Floor) {state : State Unit}
    (hrows : state.rows = f.state.rows) (htimers : state.timers = f.state.timers) :
    Moved c h f { f with state } := by
  have hmoved : Moved c h f { f with state, workers := f.workers ++ [] } :=
    .around hrows (by rw [htimers]; exact List.Subset.refl _) fun _ hw => absurd hw List.not_mem_nil
  rwa [List.append_nil] at hmoved

theorem jobs_remove_subset (t : Timers) (id : String) : (t.remove id).jobs ⊆ t.jobs :=
  fun _ hjob => List.mem_of_mem_filter hjob

theorem moved_come (n : Nat) : Moved c h f (f.come n) := by
  unfold Floor.come
  split
  · rename_i errand ids id rest hw
    by_cases hpoll : errand = .poll
    · rw [if_pos hpoll]
      exact .comes hw (jobs_remove_subset f.state.timers id)
    · rw [if_neg hpoll]
      exact .comes hw (List.Subset.refl f.state.timers.jobs)
  · exact .still c h f

theorem moved_begin (n : Nat) : Moved c h f (f.begin_ c h n) := by
  unfold Floor.begin_
  split
  · rename_i errand ids id rest hw
    dsimp only
    cases horders : errand.orders with
    | none => exact .deletes hw horders
    | some orders =>
      obtain ⟨ignore, news⟩ := orders
      dsimp only
      rcases hbegin : (Service.begin_ c h id ignore news).run f.state with ⟨fault | begun, state⟩
      · have hends := Moved.ends hw horders (show _ = ((Except.error fault).map _, _) from hbegin)
        simpa only [Floor.note, hbegin] using hends
      · cases begun with
        | finished r =>
          have hends := Moved.ends hw horders (show _ = ((Except.ok r).map _, _) from hbegin)
          simpa only [Floor.note, hbegin] using hends
        | running e now plan =>
          have hstarts := Moved.starts hw horders hbegin
          simpa only [Floor.note, hbegin] using hstarts
  · exact .still c h f

theorem moved_hear (n : Nat) (reply : Reply) : Moved c h f (f.hear c n reply) := by
  unfold Floor.hear
  split
  · rename_i hw
    exact .hears hw
  · exact .still c h f

/-- **Everything that can happen on a floor.** -/
theorem moved (f : Floor) (m : Move) : Moved c h f (f.move c h m) := by
  cases m with
  | advance id ignore news =>
    exact .adds c h f (List.Subset.refl _) ⟨rfl, rfl, fun _ => ⟨id, rfl⟩, nofun, nofun⟩
  | delete id =>
    exact .adds c h f (List.Subset.refl _) ⟨rfl, rfl, fun _ => ⟨id, rfl⟩, nofun, nofun⟩
  | ring id =>
    show Moved c h f (f.ring id)
    unfold Floor.ring
    split
    · rename_i hset
      refine .adds c h f (jobs_remove_subset f.state.timers id)
        ⟨rfl, rfl, fun _ => ⟨id, rfl⟩, fun _ id' hid' => ?_, nofun⟩
      obtain ⟨job, hjob, hdue⟩ := List.any_eq_true.1 hset
      rw [List.mem_singleton.1 hid']
      exact ⟨job, hjob, (of_decide_eq_true hdue).1⟩
    · exact .still c h f
  | poll now =>
    show Moved c h f (f.poll now)
    unfold Floor.poll
    split
    · rename_i due hdue
      exact .adds c h f (List.Subset.refl _)
        ⟨rfl, rfl, fun hne => absurd rfl hne, nofun, fun _ => ⟨now, hdue⟩⟩
    · exact .still c h f
  | come n => exact moved_come n
  | begin_ n => exact moved_begin n
  | hear n reply => exact moved_hear n reply
  | setClock now => exact .changes c h f rfl rfl
  | save record =>
    show Moved c h f (f.operate (saveWorkflow record))
    unfold Floor.operate
    rw [run_saveWorkflow]
    rcases f.state.files.save f.state.clock.universal record with _ | ⟨r, files⟩ <;>
      exact .changes c h f rfl rfl
  | drop workflowId =>
    show Moved c h f (f.operate (dropWorkflow workflowId))
    unfold Floor.operate
    rw [run_dropWorkflow]
    rcases f.state.files.delete workflowId with _ | ⟨found, files⟩ <;>
      exact .changes c h f rfl rfl

/-- The floor after a worker recorded what its plan came to. -/
def Floor.conclude (c : Config) (f : Floor) (e : Enrollment) (now : Moment)
    (result : Except Fault Report) : Floor :=
  f.operate (do Service.conclude c e now (← orFault result))

/-- A worker with a plan asks for a delivery, or records its report and lets go of the lock. -/
theorem follow_cases (c : Config) (f : Floor) (n : Nat) (id : String) (rest : List String)
    (visit : Nat) (e : Enrollment) (now : Moment) (plan : Plan (Except Fault Report)) :
    (∃ d next, plan = .ask d next ∧ f.follow c n id rest visit e now plan =
      { f with asked := f.asked ++ [(id, d)] }.put n (.asking visit e now d next)) ∨
    ∃ result r, plan = .done result ∧ f.follow c n id rest visit e now plan =
      (f.conclude c e now result).finish n id rest r := by
  cases plan with
  | ask d next => exact Or.inl ⟨d, next, rfl, rfl⟩
  | done result => exact Or.inr ⟨result, _, rfl, rfl⟩

/-! ### Workers after a move -/

theorem workers_put (f : Floor) (n m : Nat) (place : Place) :
    (f.put n place).workers[m]? =
      (f.workers[m]?).map fun w => if n = m then { w with place } else w := by
  unfold Floor.put
  rw [List.getElem?_modify]
  rfl

/-- The workers after one of them let go of its lock: it is outside, and whoever is next has the
lock. -/
theorem workers_leave (f : Floor) (n m : Nat) (id : String) (todo : List String) :
    (f.leave n id todo).workers[m]? = (f.workers[m]?).map fun w =>
      let w := if n = m then { w with todo, place := .outside } else w
      if (f.locks.leave id).1 = some m then { w with place := .admitted } else w := by
  unfold Floor.leave
  cases hnext : (f.locks.leave id).1 with
  | none =>
    simp only [hnext, List.getElem?_modify]
    cases f.workers[m]? <;> simp
  | some other =>
    simp only [hnext, workers_put, List.getElem?_modify]
    cases f.workers[m]? <;> simp

theorem leave_fields (f : Floor) (n : Nat) (id : String) (todo : List String) :
    (f.leave n id todo).state = f.state ∧ (f.leave n id todo).locks = (f.locks.leave id).2 ∧
      (f.leave n id todo).asked = f.asked ∧ (f.leave n id todo).book = f.book ∧
      (f.leave n id todo).results = f.results := by
  unfold Floor.leave
  rcases f.locks.leave id with ⟨_ | other, locks⟩ <;> exact ⟨rfl, rfl, rfl, rfl, rfl⟩

/-! ### Order on the floor -/

/-- Whoever stands in the line for a lock came for its enrollment, and whoever is at work is the
first one in the line. -/
structure Orderly (f : Floor) : Prop where
  locks : f.locks.Sound
  nodup : ∀ id, (f.locks.line id).Nodup
  lined : ∀ {id n}, n ∈ f.locks.line id →
    ∃ w, f.workers[n]? = some w ∧ w.todo.head? = some id ∧ w.place ≠ .outside
  first : ∀ {n w}, f.workers[n]? = some w → w.place.isInside = true →
    ∃ id, w.todo.head? = some id ∧ (f.locks.line id).head? = some n

namespace Orderly

theorem idle (s : State Unit) : Orderly (.idle s) :=
  ⟨LockTable.sound_empty, fun _ => List.nodup_nil, fun hmem => absurd hmem List.not_mem_nil,
    fun hw => by cases hw⟩

/-- **Two workers are never at work for one enrollment.** -/
theorem alone (ho : Orderly f) {n m : Nat} {w w' : Worker} {id : String}
    (hw : f.workers[n]? = some w) (hw' : f.workers[m]? = some w')
    (hin : w.place.isInside = true) (hin' : w'.place.isInside = true)
    (hid : w.todo.head? = some id) (hid' : w'.todo.head? = some id) : n = m := by
  obtain ⟨id₁, h₁, hfirst⟩ := ho.first hw hin
  obtain ⟨id₂, h₂, hfirst'⟩ := ho.first hw' hin'
  rw [hid] at h₁
  rw [hid'] at h₂
  cases h₁
  cases h₂
  rw [hfirst] at hfirst'
  exact Option.some.inj hfirst'

/-- The order does not depend on what was recorded. -/
theorem congr (ho : Orderly f) (hlocks : f'.locks = f.locks) (hworkers : f'.workers = f.workers) :
    Orderly f' :=
  ⟨by rw [hlocks]; exact ho.locks, by rw [hlocks]; exact ho.nodup,
    by rw [hlocks, hworkers]; exact ho.lined, by rw [hlocks, hworkers]; exact ho.first⟩

theorem add (ho : Orderly f) (state : State Unit) {new : List Worker}
    (hnew : ∀ w ∈ new, w.Arrives f.state) : Orderly { f with state, workers := f.workers ++ new } := by
  refine ⟨ho.locks, ho.nodup, ?_, ?_⟩
  · intro id n hmem
    obtain ⟨w, hw, hrest⟩ := ho.lined hmem
    refine ⟨w, ?_, hrest⟩
    rw [List.getElem?_append_left (List.getElem?_eq_some_iff.1 hw).1]
    exact hw
  · intro n w hw hin
    dsimp only at hw
    rw [List.getElem?_append] at hw
    split at hw
    · exact ho.first hw hin
    · rw [(hnew w (List.mem_of_getElem? hw)).place] at hin
      cases hin

/-- A worker that is outside stands in no line. -/
theorem unlined (ho : Orderly f) {n : Nat} {w : Worker} (hw : f.workers[n]? = some w)
    (hout : w.place = .outside) (id : String) : n ∉ f.locks.line id := by
  intro hmem
  obtain ⟨w', hw', -, hplace⟩ := ho.lined hmem
  obtain rfl := Option.some.inj (hw.symm.trans hw')
  exact hplace hout

/-- A worker stands in the line for its own enrollment only. -/
theorem line_unique (ho : Orderly f) {n : Nat} {w : Worker} {id id' : String}
    (hw : f.workers[n]? = some w) (hid : w.todo.head? = some id) (hmem : n ∈ f.locks.line id') :
    id' = id := by
  obtain ⟨w', hw', hid', -⟩ := ho.lined hmem
  obtain rfl := Option.some.inj (hw.symm.trans hw')
  exact Option.some.inj (hid'.symm.trans hid)

/-- The line for an enrollment is the worker at work for it and, behind it, others. -/
theorem line_eq (ho : Orderly f) {n : Nat} {w : Worker} {id : String} (hw : f.workers[n]? = some w)
    (hin : w.place.isInside = true) (hid : w.todo.head? = some id) :
    ∃ others, f.locks.line id = n :: others ∧ n ∉ others ∧ others.Nodup := by
  obtain ⟨id', hid', hfirst⟩ := ho.first hw hin
  obtain rfl := Option.some.inj (hid.symm.trans hid')
  obtain ⟨others, hothers⟩ := List.head?_eq_some_iff.1 hfirst
  have hnd := ho.nodup id
  rw [hothers, List.nodup_cons] at hnd
  exact ⟨others, hothers, hnd⟩

/-- Whoever gets the lock that a worker lets go stands in the line for it. -/
theorem next_lined (ho : Orderly f) {n m : Nat} {w : Worker} {id : String}
    (hw : f.workers[n]? = some w) (hin : w.place.isInside = true) (hid : w.todo.head? = some id)
    (hnext : (f.locks.leave id).1 = some m) :
    n ≠ m ∧ ∃ w', f.workers[m]? = some w' ∧ w'.todo.head? = some id := by
  obtain ⟨others, hothers, hnot, -⟩ := ho.line_eq hw hin hid
  rw [ho.locks.leave_next, hothers, List.tail_cons] at hnext
  have hmem : m ∈ others := List.mem_of_head? hnext
  have hlined : m ∈ f.locks.line id := by
    rw [hothers]
    exact List.mem_cons_of_mem n hmem
  obtain ⟨w', hw', hid', -⟩ := ho.lined hlined
  exact ⟨fun heq => hnot (heq ▸ hmem), w', hw', hid'⟩

/-- A worker comes to the end of the line for the lock of its enrollment. -/
theorem enter (ho : Orderly f) {n : Nat} {w : Worker} {id : String} (hw : f.workers[n]? = some w)
    (hout : w.place = .outside) (hid : w.todo.head? = some id) (state : State Unit) :
    Orderly ({ f with state, locks := (f.locks.enter id n).2 }.put n
      (if (f.locks.enter id n).1.2 then .admitted else .waiting)) := by
  have hnew := ho.unlined hw hout
  refine ⟨ho.locks.enter id n, ho.locks.nodup_enter ho.nodup (hnew id), ?_, ?_⟩
  · intro id' m hmem
    rw [workers_put]
    rcases ho.locks.mem_enter.1 hmem with hold | ⟨rfl, rfl⟩
    · have hm : n ≠ m := by
        rintro rfl
        exact hnew id' hold
      obtain ⟨w', hw', hrest⟩ := ho.lined hold
      refine ⟨w', ?_, hrest⟩
      rw [show _ = some w' from hw', Option.map_some, if_neg hm]
    · rw [show _ = some w from hw, Option.map_some, if_pos rfl]
      refine ⟨_, rfl, hid, ?_⟩
      dsimp only
      split <;> exact nofun
  · intro m w' hw' hin
    rw [workers_put] at hw'
    obtain ⟨w₀, hw₀, rfl⟩ := Option.map_eq_some_iff.1 hw'
    replace hw₀ : f.workers[m]? = some w₀ := hw₀
    by_cases hm : n = m
    · subst hm
      rw [hw] at hw₀
      cases hw₀
      rw [if_pos rfl] at hin ⊢
      have hgranted : (f.locks.enter id n).1.2 = true := by
        by_contra hno
        rw [Bool.not_eq_true] at hno
        rw [hno] at hin
        cases hin
      exact ⟨id, hid, ho.locks.head_enter.2 (Or.inr ⟨rfl, rfl, hgranted⟩)⟩
    · rw [if_neg hm] at hin ⊢
      obtain ⟨id', hid', hfirst⟩ := ho.first hw₀ hin
      exact ⟨id', hid', ho.locks.head_enter.2 (Or.inl hfirst)⟩

/-- A worker at work asks for its next delivery. -/
theorem ask (ho : Orderly f) {n : Nat} {w : Worker} (hw : f.workers[n]? = some w)
    (hin : w.place.isInside = true) {place : Place} (hplace : place.isInside = true) :
    Orderly (f.put n place) := by
  refine ⟨ho.locks, ho.nodup, ?_, ?_⟩
  · intro id m hmem
    obtain ⟨w', hw', hid, hne⟩ := ho.lined hmem
    rw [workers_put, hw']
    refine ⟨_, rfl, ?_⟩
    split
    · refine ⟨hid, ?_⟩
      dsimp only
      intro heq
      rw [heq] at hplace
      cases hplace
    · exact ⟨hid, hne⟩
  · intro m w' hw' hin'
    rw [workers_put] at hw'
    obtain ⟨w₀, hw₀, rfl⟩ := Option.map_eq_some_iff.1 hw'
    by_cases hm : n = m
    · subst hm
      rw [hw] at hw₀
      cases hw₀
      rw [if_pos rfl]
      obtain ⟨id, hid, hfirst⟩ := ho.first hw hin
      exact ⟨id, hid, hfirst⟩
    · rw [if_neg hm] at hin' ⊢
      exact ho.first hw₀ hin'

/-- A worker at work lets go of its lock. -/
theorem leave (ho : Orderly f) {n : Nat} {w : Worker} {id : String} (hw : f.workers[n]? = some w)
    (hin : w.place.isInside = true) (hid : w.todo.head? = some id) (todo : List String) :
    Orderly (f.leave n id todo) := by
  have hnext := ho.locks.leave_next id
  obtain ⟨others, hothers, hnot, hnd⟩ := ho.line_eq hw hin hid
  have hline := ho.locks.line_leave_erase (by rw [hothers]; rfl) fun _ => ho.line_unique hw hid
  rw [hothers, List.tail_cons] at hnext
  have hlocks := (leave_fields f n id todo).2.1
  refine ⟨by rw [hlocks]; exact ho.locks.leave id, ?_, ?_, ?_⟩
  · intro id'
    rw [hlocks, hline]
    exact (ho.nodup id').erase n
  · intro id' m hmem
    rw [hlocks, hline] at hmem
    have hold := (ho.nodup id').mem_erase_iff.1 hmem
    obtain ⟨w', hw', hid', hout⟩ := ho.lined hold.2
    rw [workers_leave, hw', Option.map_some]
    refine ⟨_, rfl, ?_⟩
    dsimp only
    rw [if_neg (Ne.symm hold.1)]
    split
    · exact ⟨hid', nofun⟩
    · exact ⟨hid', hout⟩
  · intro m w' hw' hin'
    rw [workers_leave] at hw'
    obtain ⟨w₀, hw₀, rfl⟩ := Option.map_eq_some_iff.1 hw'
    dsimp only at hin' ⊢
    rw [hlocks]
    by_cases hm : (f.locks.leave id).1 = some m
    · -- the next one has the lock
      obtain ⟨hne, w₁, hw₁, hid₁⟩ := ho.next_lined hw hin hid hm
      obtain rfl := Option.some.inj (hw₀.symm.trans hw₁)
      rw [if_neg hne]
      rw [hnext] at hm
      refine ⟨id, ?_, ?_⟩
      · split <;> exact hid₁
      · rw [hline, hothers, List.erase_cons_head]
        exact hm
    · rw [if_neg hm] at hin' ⊢
      by_cases hself : n = m
      · rw [if_pos hself] at hin'
        cases hin'
      · rw [if_neg hself] at hin' ⊢
        obtain ⟨id', hid', hfirst'⟩ := ho.first hw₀ hin'
        refine ⟨id', hid', ?_⟩
        obtain ⟨tail, htail⟩ := List.head?_eq_some_iff.1 hfirst'
        rw [hline, htail, List.erase_cons_tail (by simpa using Ne.symm hself)]
        rfl

/-- Whoever gets the lock that a worker lets go has waited for it until then. -/
theorem next_waits (ho : Orderly f) {n m : Nat} {w : Worker} {id : String}
    (hw : f.workers[n]? = some w) (hin : w.place.isInside = true) (hid : w.todo.head? = some id)
    (hnext : (f.locks.leave id).1 = some m) :
    m ≠ n ∧ ∀ w', f.workers[m]? = some w' → w'.place.isInside = false := by
  obtain ⟨hne, w₁, hw₁, hid₁⟩ := ho.next_lined hw hin hid hnext
  refine ⟨Ne.symm hne, fun w' hw' => ?_⟩
  obtain rfl := Option.some.inj (hw₁.symm.trans hw')
  by_contra hinside
  rw [Bool.not_eq_false] at hinside
  exact hne (ho.alone hw hw₁ hin hinside hid hid₁)

/-- A worker at work is done with a run. -/
theorem finish (ho : Orderly f) {n : Nat} {w : Worker} {id : String} (hw : f.workers[n]? = some w)
    (hin : w.place.isInside = true) (hid : w.todo.head? = some id) (rest : List String)
    (made : Except Fault Report) : Orderly (f.finish n id rest made) := by
  have ho₁ : Orderly { f with results := f.results ++ [(n, made)] } := ho.congr rfl rfl
  exact ho₁.leave hw hin hid _

/-- A worker at work follows a plan. -/
theorem follow (ho : Orderly f) {n : Nat} {w : Worker} {id : String} (hw : f.workers[n]? = some w)
    (hin : w.place.isInside = true) (hid : w.todo.head? = some id) (rest : List String)
    (visit : Nat) (e : Enrollment) (now : Moment) (plan : Plan (Except Fault Report)) :
    Orderly (f.follow c n id rest visit e now plan) := by
  rcases follow_cases c f n id rest visit e now plan with
    ⟨d, next, -, heq⟩ | ⟨result, r, -, heq⟩ <;> rw [heq]
  · have ho₁ : Orderly { f with asked := f.asked ++ [(id, d)] } := ho.congr rfl rfl
    exact ho₁.ask hw hin rfl
  · have ho₁ : Orderly (f.conclude c e now result) := ho.congr rfl rfl
    exact ho₁.finish hw hin hid rest r

/-- **Every move keeps order.** -/
theorem of_moved (ho : Orderly f) (hmoved : Moved c h f f') : Orderly f' := by
  cases hmoved with
  | around _ _ hnew => exact ho.add _ hnew
  | comes hw => exact ho.enter hw rfl rfl _
  | deletes hw =>
    rename_i n errand ids rest id _
    have ho₁ : Orderly ((f.note n id errand).operate (Service.delete id)) := ho.congr rfl rfl
    exact ho₁.leave hw rfl rfl _
  | ends hw =>
    rename_i n errand ids rest id ignore news made state _ _
    have ho₁ : Orderly { f.note n id errand with state } := ho.congr rfl rfl
    exact ho₁.finish hw rfl rfl rest made
  | starts hw =>
    rename_i n errand ids rest id ignore news e now plan state _ _
    have ho₁ : Orderly { f.note n id errand with state } := ho.congr rfl rfl
    exact ho₁.follow hw rfl rfl rest f.book.length e now plan
  | hears hw =>
    rename_i n errand ids rest id visit e now d next reply
    have ho₁ : Orderly (f.noteReply visit reply) := ho.congr rfl rfl
    exact ho₁.follow hw rfl rfl rest visit e now (next reply)

theorem move (ho : Orderly f) (m : Move) : Orderly (f.move c h m) := ho.of_moved (moved f m)

end Orderly
end Service
end Cadence
