/-
# Nobody but who asks for it runs what has failed again, or is overtaken

When a timer rings or a poll looks for what is due, the enrollments that it starts out for have due
times, so they have not failed (`Kept.due`). On a floor the timers go with the rows (`Kept`), as
they do in a service that does one thing after the other.

But whoever starts out has to wait for the lock. Workers that are before it in the line may fail in
the meantime, and then it runs the failed node again when it gets the lock (`failure_is_run_again`).
There is no other way (`retried_if_overtaken`): if an enrollment has failed when such a worker begins,
this was recorded since it started out, and all visits to the enrollment so far are by others.

Key definitions: `Kept`, `Floor.HasFailed`, `Floor.upTo`.
Key theorems: `Kept.play`, `arrival`, `Kept.due`, `retried_if_overtaken`.
-/
import Cadence.Proofs.Enrollment.Due
import Cadence.Proofs.Service.Forward
import Cadence.Proofs.Service.Guarded
import Cadence.Proofs.Service.Serial

namespace Cadence
namespace Service

open Time
open Enrollment (Row Rows recorded)

variable {c : Config} {h : Bool} {start : State Replay} {f f' : Floor}

/-! ### Rows of a floor -/

/-- A visit keeps enrollments that are due from having failed. -/
theorem Visit.forward (v : Visit) {t : State Replay} (ht : AllForward t) :
    AllForward (v.alone c h t) := by
  have hscene : AllForward (v.scene t) := ⟨trivial, ht.ids, ht.rows⟩
  cases horders : v.errand.orders with
  | none =>
    rw [alone_of_no_orders horders]
    exact ⟨trivial, hscene.ids.sublist (List.filter_sublist.map _),
      fun r hr => hscene.rows r (List.mem_of_mem_filter hr)⟩
  | some orders =>
    rw [alone_of_orders horders]
    exact Invocation.forward ⟨v.id, orders.1, orders.2, v.scene t⟩ hscene

theorem inTurn_forward (book : List Visit) {t : State Replay} (ht : AllForward t) :
    AllForward (inTurn c h book t) := by
  induction book generalizing t with
  | nil => exact ht
  | cons v book ih => exact ih (v.forward ht)

/-- **On a floor, too, no enrollment that is due has failed.** -/
theorem Played.forward (hp : Played c h start f) (hstart : AllForward start) {id : String} {r : Row}
    (hr : f.row id = some r) : Forward r := by
  rcases hp.serial id with hrest | ⟨n, w, visit, v, e, now, plan, d, next, hm⟩
  · rw [hrest.row] at hr
    exact (inTurn_forward _ hstart).rows r (List.mem_of_find?_eq_some hr)
  · -- the run that is under way has stored the news about its lead
    obtain ⟨past, ignore, news, t, -, -, hbegin, hrow, -⟩ := hm.story.begun
    have hscene : AllForward (v.scene (inTurn c h past start)) :=
      ⟨trivial, (inTurn_forward past hstart).ids, (inTurn_forward past hstart).rows⟩
    cases begins_of_run hbegin with
    | ready hfound =>
      rw [← hrow] at hr
      exact hfound.forall_modify hscene.ids hscene.rows (fun hr => hr.refreshed news e) r
        (List.mem_of_find?_eq_some hr)

/-! ### Timers of a floor -/

/-- Rows keep their ids, and timers go with rows if they did. -/
structure Tended (s s' : State Unit) : Prop where
  ids : (s'.rows.map (·.id)).Sublist (s.rows.map (·.id))
  guarded : Guarded s.rows s.timers → Guarded s'.rows s'.timers

theorem Tended.refl (s : State Unit) : Tended s s := ⟨List.Sublist.refl _, fun hg => hg⟩

theorem Tended.trans {s s' s'' : State Unit} (ht : Tended s s') (ht' : Tended s' s'') :
    Tended s s'' :=
  ⟨ht'.ids.trans ht.ids, fun hg => ht'.guarded (ht.guarded hg)⟩

theorem Tended.fewer {s s' : State Unit} (hrows : s'.rows = s.rows)
    (hjobs : s'.timers.jobs ⊆ s.timers.jobs) : Tended s s' := by
  refine ⟨by rw [hrows], fun hg => ?_⟩
  rw [hrows]
  exact hg.fewer fun _ hjob => hjobs hjob

theorem tended_delete (id : String) (s : State Unit) : Tended s ((Service.delete id).after s) :=
  ⟨List.filter_sublist.map _, fun hg => hg.delete id⟩

theorem tended_begin {id : String} {ignore : Option Bool} {news : Option Lead} {s s' : State Unit}
    {res : Except Fault Begun} (hbegin : (begin_ c h id ignore news).run s = (res, s')) :
    Tended s s' := by
  have hids : ∀ (g : Row → Row), (∀ r, (g r).id = r.id) →
      ((s.rows.modify id g).map (·.id)).Sublist (s.rows.map (·.id)) := fun g hg => by
    rw [Enrollment.modify_ids hg]
  cases begins_of_run hbegin with
  | unread => exact .refl s
  | unable | ready =>
    exact ⟨hids _ (refreshed_id news _), fun hg => hg.told news _⟩
  | flawed | complete =>
    exact ⟨hids _ fun r => refreshed_id news _ r, fun hg =>
      (hg.remove id).recorded news _ [] _ nofun fun _ => Timers.isArmed_remove_self s.timers id⟩

theorem tended_conclude {s : State Unit} {e : Enrollment} {now : Moment}
    {result : Except Fault Report} (hsome : (s.rows.find? e.id).isSome = true) :
    Tended s ((do conclude c e now (← orFault result) : Op Unit Report).after s) := by
  rcases concluded_cases c e now result with hstill | ⟨r, status, completedAt, resumeAt, -, hv, hrec⟩
  · rw [hstill s hsome]
    exact .refl s
  · rw [hrec s hsome]
    refine ⟨?_, fun hg => ?_⟩
    · have hids : ∀ r₀ : Row, (recorded (newSteps e r) status completedAt resumeAt r₀).id = r₀.id :=
        fun _ => rfl
      exact (Enrollment.modify_ids hids s.rows).symm ▸ List.Sublist.refl _
    · obtain ⟨r₀, hr₀⟩ := Option.isSome_iff_exists.1 hsome
      have hid : r₀.id = e.id := by simpa using List.find?_some hr₀
      exact hg.rearm (List.mem_of_find?_eq_some hr₀) hid none e (newSteps e r) hv

/-- A worker that follows a plan keeps timers with rows, if it finds its row. -/
theorem tended_follow (f : Floor) {n visit : Nat} {id : String} {rest : List String}
    {e : Enrollment} {now : Moment} (plan : Plan (Except Fault Report))
    (hsome : (f.state.rows.find? e.id).isSome = true) :
    Tended f.state (f.follow c n id rest visit e now plan).state := by
  rcases follow_cases c f n id rest visit e now plan with
    ⟨d, next, -, heq⟩ | ⟨result, r, -, heq⟩ <;> rw [heq]
  · exact .refl f.state
  · rw [(finish_fields (f.conclude c e now result) n id rest r).1]
    exact tended_conclude hsome

/-- **Every move keeps timers with rows**, if whoever is in the middle of a run finds its row. -/
theorem Moved.tended (hmoved : Moved c h f f')
    (hpresent : ∀ {n visit : Nat} {w : Worker} {e : Enrollment} {now : Moment} {d : Delivery}
      {next : Reply → Plan (Except Fault Report)}, f.workers[n]? = some w →
      w.place = .asking visit e now d next → (f.state.rows.find? e.id).isSome = true) :
    Tended f.state f'.state := by
  cases hmoved with
  | around hrows hjobs => exact .fewer hrows hjobs
  | comes _ hjobs => exact .fewer rfl hjobs
  | deletes =>
    rename_i n errand ids rest id _ _
    rw [(leave_fields ((f.note n id errand).operate (Service.delete id)) n id rest).1]
    exact tended_delete id f.state
  | ends _ _ hbegin =>
    rw [(finish_fields _ _ _ _ _).1]
    exact tended_begin hbegin
  | starts _ _ hbegin =>
    rename_i n errand ids rest id ignore news e now plan state _ _
    have hsome : (state.rows.find? e.id).isSome = true := by
      cases begins_of_run hbegin with
      | ready hfound =>
        rw [hfound.ids.1]
        exact hfound.told_isSome
    exact (tended_begin hbegin).trans (tended_follow { f.note n id errand with state } plan hsome)
  | hears hw =>
    rename_i visit _ _ _ _ reply
    exact tended_follow (f.noteReply visit reply) _ (hpresent hw rfl)

/-- What is so after any moves on the floor of a service: enrollments are as if worked for in turn,
no due one of them has failed, and timers are those of due ones. -/
structure Kept (c : Config) (h : Bool) (start : State Replay) (f : Floor) : Prop where
  played : Played c h start f
  ids : (f.state.rows.map (·.id)).Nodup
  guarded : Guarded f.state.rows f.state.timers

theorem Kept.move (hk : Kept c h start f) (m : Move) : Kept c h start (f.move c h m) := by
  have ht : Tended f.state (f.move c h m).state :=
    (moved f m).tended fun hw hplace => hk.played.present hw hplace
  exact ⟨hk.played.move m, hk.ids.sublist ht.ids, ht.guarded hk.guarded⟩

theorem Kept.play (hk : Kept c h start f) (moves : List Move) :
    Kept c h start (f.play c h moves) := by
  induction moves generalizing f with
  | nil => exact hk
  | cons m moves ih => exact ih (hk.move m)

/-! ### Starting out -/

namespace Floor

/-- What the workers came for. -/
def roster (f : Floor) : List (Errand × List String) := f.workers.map fun w => (w.errand, w.ids)

/-- Whether the last step that is stored for an enrollment has failed. -/
def HasFailed (f : Floor) (id : String) : Prop :=
  ∃ r ∈ f.row id, ∃ t ∈ r.steps.getLast?, t.status = .failed

end Floor

theorem roster_put (f : Floor) (n : Nat) (place : Place) : (f.put n place).roster = f.roster := by
  unfold Floor.roster
  refine List.ext_getElem? fun j => ?_
  rw [List.getElem?_map, List.getElem?_map, workers_put]
  cases f.workers[j]? with
  | none => rfl
  | some w => by_cases hj : n = j <;> simp [hj]

theorem roster_leave (f : Floor) (n : Nat) (id : String) (todo : List String) :
    (f.leave n id todo).roster = f.roster := by
  unfold Floor.roster
  refine List.ext_getElem? fun j => ?_
  rw [List.getElem?_map, List.getElem?_map, workers_leave]
  cases f.workers[j]? with
  | none => rfl
  | some w =>
    dsimp only [Option.map_some]
    split <;> split <;> rfl

/-- A worker after a move was there before, and came for the same, or it is new. -/
theorem Moved.worker (hmoved : Moved c h f f') {n : Nat} {w : Worker}
    (hw : f'.workers[n]? = some w) :
    (∃ w₀, f.workers[n]? = some w₀ ∧ w₀.errand = w.errand ∧ w₀.ids = w.ids) ∨
      f.workers.length ≤ n ∧ w.Arrives f.state := by
  have hsame : f'.roster = f.roster →
      ∃ w₀, f.workers[n]? = some w₀ ∧ w₀.errand = w.errand ∧ w₀.ids = w.ids := by
    intro hroster
    have hget := congrArg (·[n]?) hroster
    unfold Floor.roster at hget
    simp only [List.getElem?_map, hw, Option.map_some] at hget
    obtain ⟨w₀, hw₀, heq⟩ := Option.map_eq_some_iff.1 hget.symm
    exact ⟨w₀, hw₀, congrArg (·.1) heq, congrArg (·.2) heq⟩
  have hfollow : ∀ (f₁ : Floor) (n visit : Nat) (id : String) (rest : List String) (e : Enrollment)
      (now : Moment) (plan : Plan (Except Fault Report)),
      (f₁.follow c n id rest visit e now plan).roster = f₁.roster := by
    intro f₁ n visit id rest e now plan
    rcases follow_cases c f₁ n id rest visit e now plan with
      ⟨d, next, -, heq⟩ | ⟨result, r, -, heq⟩ <;> rw [heq]
    · exact roster_put _ n _
    · exact roster_leave _ n id _
  cases hmoved with
  | around _ _ hnew =>
    dsimp only at hw
    rw [List.getElem?_append] at hw
    split at hw
    · exact Or.inl ⟨w, hw, rfl, rfl⟩
    · rename_i hlen
      exact Or.inr ⟨Nat.not_lt.1 hlen, hnew w (List.mem_of_getElem? hw)⟩
  | comes => exact Or.inl (hsame (roster_put _ _ _))
  | deletes => exact Or.inl (hsame (roster_leave _ _ _ _))
  | ends => exact Or.inl (hsame (roster_leave _ _ _ _))
  | starts => exact Or.inl (hsame (hfollow _ _ _ _ _ _ _ _))
  | hears => exact Or.inl (hsame (hfollow _ _ _ _ _ _ _ _))

/-! ### Moves one by one -/

/-- The floor after the first moves. -/
def Floor.upTo (c : Config) (h : Bool) (s : State Unit) (moves : List Move) (i : Nat) : Floor :=
  (Floor.idle s).play c h (moves.take i)

theorem upTo_succ {s : State Unit} {moves : List Move} {i : Nat} (hi : i < moves.length) :
    ∃ m, Floor.upTo c h s moves (i + 1) = (Floor.upTo c h s moves i).move c h m := by
  refine ⟨moves[i], ?_⟩
  unfold Floor.upTo Floor.play
  rw [List.take_succ_eq_append_getElem hi, List.foldl_append]
  rfl

/-- **Every worker came with a move**, for what it is there for. -/
theorem arrival {s : State Unit} {moves : List Move} {i : Nat} (hi : i ≤ moves.length) {n : Nat}
    {w : Worker} (hw : (Floor.upTo c h s moves i).workers[n]? = some w) :
    ∃ j < i, (Floor.upTo c h s moves j).workers.length ≤ n ∧ ∃ w₀,
      (Floor.upTo c h s moves (j + 1)).workers[n]? = some w₀ ∧
      w₀.Arrives (Floor.upTo c h s moves j).state ∧ w₀.errand = w.errand ∧ w₀.ids = w.ids := by
  induction i generalizing w with
  | zero => cases hw
  | succ i ih =>
    obtain ⟨m, hm⟩ := upTo_succ (c := c) (h := h) (s := s) (Nat.lt_of_succ_le hi)
    have hmoved : Moved c h (Floor.upTo c h s moves i) (Floor.upTo c h s moves (i + 1)) := by
      rw [hm]
      exact moved _ m
    rcases hmoved.worker hw with ⟨w₁, hw₁, herrand, hids⟩ | ⟨hlen, harrives⟩
    · obtain ⟨j, hj, hlen, w₀, hw₀, harrives, herrand', hids'⟩ := ih (Nat.le_of_succ_le hi) hw₁
      exact ⟨j, Nat.lt_succ_of_lt hj, hlen, w₀, hw₀, harrives, herrand'.trans herrand,
        hids'.trans hids⟩
    · exact ⟨i, Nat.lt_succ_self i, hlen, w, hw, harrives, rfl, rfl⟩

/-- What a worker that nobody asked for came for is due, each once. -/
theorem Kept.due (hk : Kept c h start f) {w : Worker} (hw : w.Arrives f.state)
    (hauto : w.errand.isAutomatic = true) :
    w.ids.Nodup ∧ ∀ id ∈ w.ids, ∃ r, f.row id = some r ∧ r.resumeAt.isSome = true := by
  have hfind : ∀ {id : String}, (∃ r ∈ f.state.rows, r.id = id ∧ r.resumeAt.isSome = true) →
      ∃ r, f.row id = some r ∧ r.resumeAt.isSome = true := by
    rintro id ⟨r, hr, rfl, hdue⟩
    exact ⟨r, find?_of_mem hk.ids hr, hdue⟩
  cases herrand : w.errand with
  | advance | delete =>
    rw [herrand] at hauto
    cases hauto
  | ring =>
    obtain ⟨id, hid⟩ := hw.single (by rw [herrand]; decide)
    refine ⟨by rw [hid]; exact List.nodup_singleton id, fun id' hid' => hfind ?_⟩
    obtain ⟨job, hjob, rfl⟩ := hw.rings herrand id' hid'
    exact hk.guarded.owned job hjob
  | poll =>
    obtain ⟨now, hdue⟩ := hw.polls herrand
    refine ⟨Enrollment.dueAt_nodup hk.ids hdue, fun id hid => hfind ?_⟩
    obtain ⟨jobs, hjobs, -, heq⟩ := Enrollment.dueAt_eq_ok.1 hdue
    rw [heq] at hid
    obtain ⟨job, hjob, rfl⟩ := List.mem_map.1 hid
    obtain ⟨r, hr, hrid, text, htext, -⟩ :=
      Enrollment.mem_scheduled hjobs (List.mem_of_mem_filter hjob)
    exact ⟨r, hr, hrid, by rw [show r.resumeAt = some text from htext]; rfl⟩

/-- A worker that is about to begin with an enrollment has not visited it, if it came for it once. -/
theorem Booked.unvisited (hb : Booked f) {n : Nat} {w : Worker} {id : String}
    (hw : f.workers[n]? = some w) (hplace : w.place = .admitted) (hid : w.todo.head? = some id)
    (hnd : w.ids.Nodup) : ∀ v ∈ f.visits id, v.worker ≠ n := by
  rintro v hv rfl
  obtain ⟨⟨dropped, hall, -⟩, -, -⟩ := hb.each hw
  have hrest : w.rest = w.todo := by
    unfold Worker.rest
    rw [hplace]
  obtain ⟨hmem, hvid⟩ := List.mem_filter.1 hv
  have hvisited : (id, v.errand) ∈ f.turnsOf v.worker := by
    unfold Floor.turnsOf Floor.turns
    refine List.mem_map.2 ⟨(v.worker, v.id, v.errand), List.mem_filter.2 ⟨?_, by simp⟩, ?_⟩
    · exact List.mem_map.2 ⟨v, hmem, rfl⟩
    · rw [of_decide_eq_true hvid]
  have hnd' : (w.ids.map (·, w.errand)).Nodup :=
    hnd.map fun a b hab => congrArg Prod.fst hab
  have herrand : v.errand = w.errand := by
    have hin : (id, v.errand) ∈ w.ids.map (·, w.errand) := by
      rw [← hall]
      exact List.mem_append_left _ hvisited
    obtain ⟨id', -, heq⟩ := List.mem_map.1 hin
    exact (congrArg Prod.snd heq).symm
  rw [← hall, List.nodup_append] at hnd'
  refine hnd'.2.2 _ hvisited (id, w.errand) ?_ (by rw [herrand])
  refine List.mem_map_of_mem (f := (·, w.errand)) (List.mem_append_left _ ?_)
  rw [hrest]
  exact List.mem_of_head? hid

/-- What is not so at first and is so later becomes so in between. -/
theorem exists_turn {P : Nat → Prop} {j i : Nat} (hji : j ≤ i) (hj : ¬ P j) (hi : P i) :
    ∃ l, j ≤ l ∧ l < i ∧ ¬ P l ∧ P (l + 1) := by
  obtain ⟨d, rfl⟩ := Nat.exists_eq_add_of_le hji
  induction d with
  | zero => exact absurd hi hj
  | succ d ih =>
    by_cases hp : P (j + d)
    · obtain ⟨l, hjl, hli, hl⟩ := ih (Nat.le_add_right j d) hp
      exact ⟨l, hjl, Nat.lt_succ_of_lt hli, hl⟩
    · exact ⟨j + d, Nat.le_add_right j d, Nat.lt_succ_self _, hp, hi⟩

section
variable {σ : Type} {k : Collaborators σ}

/-- **An enrollment that has failed is run by nobody but who asks for it, unless they are
overtaken.** Whatever was done with a service, and however the moves of workers are mixed then: when
the worker of a timer that rang or of a poll begins with an enrollment, it came at some move before,
when the enrollment was due and had not failed; it has not visited the enrollment yet; and if the
enrollment has failed by now, this was recorded since it came. -/
theorem retried_if_overtaken {s : State σ} (hrows : s.rows = []) (hjobs : s.timers.jobs = [])
    (cmds : List Command) (moves : List Move) :
    let floor := Floor.upTo c h ((carry c k cmds s).withWorld ()) moves
    ∀ i ≤ moves.length, ∀ n w id, (floor i).workers[n]? = some w → w.errand.isAutomatic = true →
      w.place = .admitted → w.todo.head? = some id →
      ∃ j < i, ((floor j).workers.length ≤ n ∧ n < (floor (j + 1)).workers.length) ∧
        (∃ r, (floor j).row id = some r ∧ r.resumeAt.isSome = true) ∧ ¬ (floor j).HasFailed id ∧
        (∀ v ∈ (floor i).visits id, v.worker ≠ n) ∧
        ((floor i).HasFailed id →
          ∃ l, j ≤ l ∧ l < i ∧ ¬ (floor l).HasFailed id ∧ (floor (l + 1)).HasFailed id) := by
  intro floor i hi n w id hw hauto hplace hid
  have hstart : AllForward (carry c k cmds s) := carry_forward hrows cmds
  have hidle : Kept c h (((carry c k cmds s).withWorld ()).withWorld ([], []))
      (Floor.idle ((carry c k cmds s).withWorld ())) :=
    ⟨.idle _, hstart.ids, guarded_afterwards cmds (.of_empty hrows hjobs)⟩
  have hkept : ∀ j, Kept c h (((carry c k cmds s).withWorld ()).withWorld ([], [])) (floor j) :=
    fun j => hidle.play (moves.take j)
  obtain ⟨j, hj, hlen, w₀, hw₀, harrives, herrand, hids⟩ := arrival hi hw
  obtain ⟨hnd, hdue⟩ := (hkept j).due harrives (by rw [herrand]; exact hauto)
  have hmem : id ∈ w₀.ids := by
    rw [hids]
    exact ((hkept i).played.booked.each hw).left.subset (List.mem_of_head? hid)
  obtain ⟨r, hr, hsome⟩ := hdue id hmem
  have hnot : ¬ (floor j).HasFailed id := by
    rintro ⟨r', hr', t, ht, hfailed⟩
    have hrow : (floor j).row id = some r' := hr'
    have hsame : (floor j).row id = some r := hr
    rw [hsame] at hrow
    cases hrow
    have hstart' : AllForward (((carry c k cmds s).withWorld ()).withWorld (([], []) : Replay)) :=
      ⟨trivial, hstart.ids, hstart.rows⟩
    rw [((hkept j).played.forward hstart' hsame).due hsome t ht] at hfailed
    cases hfailed
  refine ⟨j, hj, ⟨hlen, (List.getElem?_eq_some_iff.1 hw₀).1⟩, ⟨r, hr, hsome⟩, hnot, ?_, ?_⟩
  · exact (hkept i).played.booked.unvisited hw hplace hid (by rw [← hids]; exact hnd)
  · exact fun hfailed =>
      exists_turn (P := fun l => (floor l).HasFailed id) (Nat.le_of_lt hj) hnot hfailed

end

/-! ### A timer that is overtaken -/

namespace Sample

/-- A timer rings while its enrollment is advanced; the advance comes to the lock first, and its
handover fails. -/
def overtaken : List Move :=
  [.ring "enrollment-1", .advance "enrollment-1" none none, .come 1, .begin_ 1, .come 0,
    .hear 1 (.failed (.service "Nobody is there" "delivery_failed")), .begin_ 0]

/-- The floor after some of these moves. -/
def overtakenUpTo (i : Nat) : Floor :=
  Floor.upTo config true ((carry config collaborators pair.tail started).withWorld ()) overtaken i

/-- The last step that is stored for the enrollment: its node, and how it ended. -/
def lastStored (f : Floor) : Option (String × Outcome) :=
  ((f.row "enrollment-1").bind (·.steps.getLast?)).map fun t => (t.nodeId, t.status)

/-- What the timer's worker is up to: its errand, what is next, and where it is. -/
def rung (f : Floor) : Option (Errand × Option String × Bool × Option String) :=
  (f.workers[0]?).map fun w => (w.errand, w.todo.head?, w.place.isInside, w.running)

end Sample

/-- When the timer's worker is about to begin, the handover is stored as failed. -/
theorem overtaken_failed : Sample.lastStored (Sample.overtakenUpTo 6) = some ("agent", .failed) ∧
    Sample.rung (Sample.overtakenUpTo 6) = some (.ring, some "enrollment-1", true, none) := by
  decide +kernel

/-- In the example the timer rang for an enrollment that was due, and the failure was recorded after
that. -/
theorem retried_if_overtaken_sample :
    ∃ j < 6, (∃ r, (Sample.overtakenUpTo j).row "enrollment-1" = some r ∧
        r.resumeAt.isSome = true) ∧ ¬ (Sample.overtakenUpTo j).HasFailed "enrollment-1" ∧
      ∃ l, j ≤ l ∧ l < 6 ∧ ¬ (Sample.overtakenUpTo l).HasFailed "enrollment-1" ∧
        (Sample.overtakenUpTo (l + 1)).HasFailed "enrollment-1" := by
  obtain ⟨hlast, hrung⟩ := overtaken_failed
  obtain ⟨w, hw, heq⟩ := Option.map_eq_some_iff.1 hrung
  have hin : w.place.isInside = true := congrArg (·.2.2.1) heq
  have hrunning : w.running = none := congrArg (·.2.2.2) heq
  have hplace : w.place = .admitted := by
    unfold Worker.running at hrunning
    cases hp : w.place with
    | admitted => rfl
    | outside | waiting =>
      rw [hp] at hin
      cases hin
    | asking =>
      rw [hp] at hrunning
      cases hrunning
  obtain ⟨t, ht, hfailed⟩ := Option.map_eq_some_iff.1 hlast
  obtain ⟨r, hr, hlast'⟩ := Option.bind_eq_some_iff.1 ht
  obtain ⟨j, hj, -, hdue, hnot, -, hsince⟩ := retried_if_overtaken
    (start_idle Sample.service).rows (by decide +kernel) Sample.pair.tail Sample.overtaken 6
    (by decide) 0
    w "enrollment-1" hw (by rw [show w.errand = .ring from congrArg (·.1) heq]; rfl) hplace
    (congrArg (·.2.1) heq)
  exact ⟨j, hj, hdue, hnot, hsince ⟨r, hr, t, hlast', congrArg (·.2) hfailed⟩⟩

/-- **A timer runs a failed node again** when it is overtaken: the handover is asked for twice on
behalf of the enrollment, the second time by the timer's worker, after it was stored as failed. -/
theorem failure_is_run_again :
    (Sample.lastStored (Sample.overtakenUpTo 6) = some ("agent", .failed) ∧
      Sample.rung (Sample.overtakenUpTo 6) = some (.ring, some "enrollment-1", true, none)) ∧
    Sample.rung (Sample.overtakenUpTo 7) =
      some (.ring, some "enrollment-1", true, some "enrollment-1") ∧
    ((Sample.overtakenUpTo 7).calls "enrollment-1").map (·.2) =
      let lead : Json.Fields := [("email", .str "ada@example.org"), ("phone", .str "+32470"),
        ("channel", .str "SMS")]
      [.handoff (.str "closer") .null lead, .handoff (.str "closer") .null lead] :=
  ⟨overtaken_failed, by decide +kernel⟩

end Service
end Cadence
