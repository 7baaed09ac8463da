/-
# Everybody has their turn

The book of a floor lists visits, each by the worker that made it. Nobody is left out and nobody is
there twice: what a worker has visited and what is left for it to do are the enrollments that it came
for, with the errand that it came for (`Booked`). Only a poll may leave enrollments out, those behind
one whose run ended with a fault.

Key definitions: `Worker.rest`, `Floor.turns`, `Worker.Booked`, `Booked`.
Key theorems: `Worker.Booked.begins`, `Booked.turn`, `Booked.of_moved`, `Booked.done`.
-/
import Cadence.Proofs.Service.Orderly

namespace Cadence
namespace Service

open Time

/-- The enrollments that a worker has not begun with. -/
def Worker.rest (w : Worker) : List String :=
  match w.place with
  | .asking .. => w.todo.tail
  | _ => w.todo

/-- Who visited which enrollment, and what for. -/
def Floor.turns (f : Floor) : List (Nat × String × Errand) :=
  f.book.map fun v => (v.worker, v.id, v.errand)

/-- The enrollments that a worker visited, and what for. -/
def Floor.turnsOf (f : Floor) (n : Nat) : List (String × Errand) :=
  (f.turns.filter (·.1 = n)).map (·.2)

variable {c : Config} {h : Bool} {f f' : Floor}

/-- What is known of a worker: what it visited and what is left are what it came for. -/
structure Worker.Booked (w : Worker) (visited : List (String × Errand)) : Prop where
  all : ∃ dropped, visited ++ (w.rest ++ dropped).map (·, w.errand) = w.ids.map (·, w.errand) ∧
    (w.errand ≠ .poll → dropped = [])
  left : w.todo <:+ w.ids
  single : w.errand ≠ .poll → ∃ id, w.ids = [id]

namespace Worker

/-- Somebody new has not visited anybody. -/
theorem Arrives.booked {s : State Unit} {w : Worker} (hw : w.Arrives s) : w.Booked [] := by
  have hrest : w.rest = w.ids := by
    unfold Worker.rest
    rw [hw.place]
    exact hw.todo
  have hleft : w.todo <:+ w.ids := hw.todo ▸ List.suffix_refl w.todo
  exact ⟨⟨[], by rw [hrest]; simp, fun _ => rfl⟩, hleft, hw.single⟩

/-- A worker has begun with enrollments: with all that it is not left to do, or what was left is
dropped. -/
theorem Booked.begins {w w' : Worker} {visited : List (String × Errand)} (hb : w.Booked visited)
    {begun : List String} (herrand : w'.errand = w.errand) (hids : w'.ids = w.ids)
    (hleft : w'.todo <:+ w.todo)
    (hrest : w.rest = begun ++ w'.rest ∨ w.rest = begun ++ w.todo.tail ∧ w'.rest = []) :
    w'.Booked (visited ++ begun.map (·, w.errand)) := by
  obtain ⟨⟨dropped, hall, hnone⟩, hsuffix, hsingle⟩ := hb
  refine ⟨?_, by rw [hids]; exact hleft.trans hsuffix, by rw [herrand, hids]; exact hsingle⟩
  rw [herrand, hids, ← hall]
  rcases hrest with hrest | ⟨hrest, hnil⟩
  · exact ⟨dropped, by rw [hrest]; simp, hnone⟩
  · refine ⟨w.todo.tail ++ dropped, by rw [hrest, hnil]; simp, fun hpoll => ?_⟩
    -- only a poll has more than one enrollment to do
    obtain ⟨id, hid⟩ := hsingle hpoll
    have hlen := hsuffix.length_le
    rw [hid] at hlen
    have htail : w.todo.tail = [] := by
      rw [← List.length_eq_zero_iff, List.length_tail]
      exact Nat.sub_eq_zero_of_le hlen
    rw [htail, hnone hpoll]
    rfl

end Worker

/-- All visits are by workers, who have their turns. -/
structure Booked (f : Floor) : Prop where
  known : ∀ x ∈ f.turns, x.1 < f.workers.length
  each : ∀ {n : Nat} {w : Worker}, f.workers[n]? = some w → w.Booked (f.turnsOf n)

namespace Booked

theorem idle (s : State Unit) : Booked (.idle s) :=
  ⟨fun _ hx => absurd hx List.not_mem_nil, fun hw => by cases hw⟩

/-! ### One worker moves on -/

theorem turns_note (f : Floor) (n : Nat) (id : String) (errand : Errand) :
    (f.note n id errand).turns = f.turns ++ [(n, id, errand)] := by
  unfold Floor.turns Floor.note
  rw [List.map_append]
  rfl

theorem turns_noteReply (f : Floor) (visit : Nat) (r : Reply) :
    (f.noteReply visit r).turns = f.turns := by
  unfold Floor.turns Floor.noteReply
  refine List.ext_getElem? fun j => ?_
  dsimp only
  rw [List.getElem?_map, List.getElem?_map, List.getElem?_modify]
  cases f.book[j]? with
  | none => rfl
  | some v => by_cases hj : visit = j <;> simp [hj]

/-- A worker has begun with enrollments, while what the others have to do stays the same. -/
theorem turn (hb : Booked f) {n : Nat} {w w' : Worker} (begun : List String)
    (hturns : f'.turns = f.turns ++ begun.map fun id => (n, id, w.errand))
    (hlength : f'.workers.length = f.workers.length)
    (hothers : ∀ m ≠ n, ∀ w₁, f'.workers[m]? = some w₁ → ∃ w₀, f.workers[m]? = some w₀ ∧
      w₁.errand = w₀.errand ∧ w₁.ids = w₀.ids ∧ w₁.todo = w₀.todo ∧ w₁.rest = w₀.rest)
    (hw : f.workers[n]? = some w) (hw' : f'.workers[n]? = some w') (herrand : w'.errand = w.errand)
    (hids : w'.ids = w.ids) (hleft : w'.todo <:+ w.todo)
    (hrest : w.rest = begun ++ w'.rest ∨ w.rest = begun ++ w.todo.tail ∧ w'.rest = []) :
    Booked f' := by
  have hof : ∀ m, f'.turnsOf m =
      f.turnsOf m ++ if m = n then begun.map (·, w.errand) else [] := by
    intro m
    unfold Floor.turnsOf
    rw [hturns, List.filter_append, List.map_append]
    refine congrArg _ ?_
    by_cases hm : m = n
    · subst hm
      simp [List.filter_map, Function.comp_def]
    · simp [List.filter_map, Function.comp_def, hm, Ne.symm hm]
  constructor
  · intro x hx
    rw [hturns] at hx
    rw [hlength]
    rcases List.mem_append.1 hx with hx | hx
    · exact hb.known x hx
    · obtain ⟨id, -, rfl⟩ := List.mem_map.1 hx
      exact (List.getElem?_eq_some_iff.1 hw).1
  · intro m w₁ hw₁
    rw [hof]
    by_cases hm : m = n
    · subst hm
      obtain rfl := Option.some.inj (hw'.symm.trans hw₁)
      rw [if_pos rfl]
      exact (hb.each hw).begins herrand hids hleft hrest
    · rw [if_neg hm, List.append_nil]
      obtain ⟨w₀, hw₀, herr, hi, ht, hr⟩ := hothers m hm w₁ hw₁
      obtain ⟨hall, hsuffix, hsingle⟩ := hb.each hw₀
      exact ⟨by rw [hr, herr, hi]; exact hall, by rw [ht, hi]; exact hsuffix,
        by rw [herr, hi]; exact hsingle⟩

/-- A worker gets to another place. -/
theorem put (hb : Booked f) (f₁ : Floor) (hworkers : f₁.workers = f.workers) {n : Nat} {w : Worker}
    (hw : f.workers[n]? = some w) (place : Place) (begun : List String)
    (hturns : f₁.turns = f.turns ++ begun.map fun id => (n, id, w.errand))
    (hrest : w.rest = begun ++ ({ w with place } : Worker).rest) : Booked (f₁.put n place) := by
  have hput : ∀ m, (f₁.put n place).workers[m]? =
      (f.workers[m]?).map fun w => if n = m then { w with place } else w := by
    intro m
    rw [workers_put, hworkers]
  have hself : (f₁.put n place).workers[n]? = some { w with place } := by
    rw [hput, hw, Option.map_some, if_pos rfl]
  refine hb.turn begun hturns ?_ ?_ hw hself rfl rfl (List.suffix_refl w.todo) (Or.inl hrest)
  · unfold Floor.put
    rw [List.length_modify, hworkers]
  · intro m hm w₁ hw₁
    rw [hput] at hw₁
    obtain ⟨w₀, hw₀, rfl⟩ := Option.map_eq_some_iff.1 hw₁
    rw [if_neg (Ne.symm hm)]
    exact ⟨w₀, hw₀, rfl, rfl, rfl, rfl⟩

/-- A worker lets go of its lock and has begun with all that it is not left to do. -/
theorem leave (hb : Booked f) {f₁ : Floor} (ho : Orderly f₁) (hworkers : f₁.workers = f.workers)
    {n : Nat} {w : Worker} {id : String} {todo : List String} (hw : f.workers[n]? = some w)
    (begun : List String) (hturns : f₁.turns = f.turns ++ begun.map fun id => (n, id, w.errand))
    (hin : w.place.isInside = true) (hid : w.todo.head? = some id)
    (hrest : w.rest = begun ++ w.todo.tail) (htodo : todo = w.todo.tail ∨ todo = []) :
    Booked (f₁.leave n id todo) := by
  have hw₁ : f₁.workers[n]? = some w := by rw [hworkers]; exact hw
  have hself : (f₁.leave n id todo).workers[n]? = some { w with todo, place := .outside } := by
    have hnext : (f₁.locks.leave id).1 ≠ some n := fun heq => (ho.next_waits hw₁ hin hid heq).1 rfl
    rw [workers_leave, hw₁]
    simp [hnext]
  refine hb.turn begun ?_ ?_ ?_ hw hself rfl rfl ?_ ?_
  · rw [← hturns]
    unfold Floor.turns
    rw [(leave_fields f₁ n id todo).2.2.2.1]
  · rw [← hworkers]
    unfold Floor.leave
    rcases f₁.locks.leave id with ⟨_ | other, locks⟩ <;> simp [Floor.put]
  · intro m hm w₁ hw'
    rw [workers_leave, hworkers] at hw'
    obtain ⟨w₀, hw₀, rfl⟩ := Option.map_eq_some_iff.1 hw'
    refine ⟨w₀, hw₀, ?_⟩
    dsimp only
    rw [if_neg (Ne.symm hm)]
    split
    · rename_i hnext
      have hout := (ho.next_waits hw₁ hin hid hnext).2 w₀ (by rw [hworkers]; exact hw₀)
      refine ⟨rfl, rfl, rfl, ?_⟩
      unfold Worker.rest
      cases hplace : w₀.place with
      | asking => rw [hplace] at hout; cases hout
      | _ => rfl
    · exact ⟨rfl, rfl, rfl, rfl⟩
  · rcases htodo with rfl | rfl
    · exact List.tail_suffix w.todo
    · exact List.nil_suffix
  · rcases htodo with rfl | rfl
    · exact Or.inl hrest
    · exact Or.inr ⟨hrest, rfl⟩

/-- A worker is done with a run. -/
theorem finish (hb : Booked f) {f₁ : Floor} (ho : Orderly f₁) (hworkers : f₁.workers = f.workers)
    {n : Nat} {w : Worker} {id : String} {rest : List String} (made : Except Fault Report)
    (hw : f.workers[n]? = some w) (begun : List String)
    (hturns : f₁.turns = f.turns ++ begun.map fun id => (n, id, w.errand))
    (hin : w.place.isInside = true) (htodo : w.todo = id :: rest)
    (hrest : w.rest = begun ++ rest) : Booked (f₁.finish n id rest made) := by
  have ho₁ : Orderly { f₁ with results := f₁.results ++ [(n, made)] } := ho.congr rfl rfl
  have hmine : w.todo.head? = some id := by rw [htodo]; rfl
  refine hb.leave ho₁ hworkers hw begun hturns hin hmine (by rw [htodo]; exact hrest) ?_
  rw [htodo]
  split
  · exact Or.inl rfl
  · exact Or.inr rfl

/-- A worker follows a plan. -/
theorem follow (hb : Booked f) {f₁ : Floor} (ho : Orderly f₁) (hworkers : f₁.workers = f.workers)
    {n visit : Nat} {w : Worker} {id : String} {rest : List String} {e : Enrollment}
    {now : Moment} (plan : Plan (Except Fault Report)) (hw : f.workers[n]? = some w)
    (begun : List String) (hturns : f₁.turns = f.turns ++ begun.map fun id => (n, id, w.errand))
    (hin : w.place.isInside = true) (htodo : w.todo = id :: rest)
    (hrest : w.rest = begun ++ rest) : Booked (f₁.follow c n id rest visit e now plan) := by
  rcases follow_cases c f₁ n id rest visit e now plan with
    ⟨d, next, -, heq⟩ | ⟨result, r, -, heq⟩ <;> rw [heq]
  · have hasked : ({ f₁ with asked := f₁.asked ++ [(id, d)] } : Floor).turns =
        f.turns ++ begun.map fun id => (n, id, w.errand) := hturns
    refine hb.put { f₁ with asked := f₁.asked ++ [(id, d)] } hworkers hw _ begun hasked
      (hrest.trans ?_)
    unfold Worker.rest
    dsimp only
    rw [htodo]
    rfl
  · have ho₁ : Orderly (f₁.conclude c e now result) := ho.congr rfl rfl
    exact hb.finish ho₁ hworkers r hw begun hturns hin htodo hrest

/-- **Every move keeps the book.** -/
theorem of_moved (ho : Orderly f) (hb : Booked f) (hmoved : Moved c h f f') : Booked f' := by
  cases hmoved with
  | around _ _ hnew =>
    rename_i new _ _
    refine ⟨fun x hx => ?_, fun {n w} hw => ?_⟩
    · dsimp only
      rw [List.length_append]
      exact Nat.lt_of_lt_of_le (hb.known x hx) (Nat.le_add_right _ _)
    · dsimp only at hw
      rw [List.getElem?_append] at hw
      split at hw
      · exact hb.each hw
      · rename_i hlen
        have hnone : f.turnsOf n = [] := by
          unfold Floor.turnsOf
          rw [List.map_eq_nil_iff, List.filter_eq_nil_iff]
          intro x hx heq
          have hlt := hb.known x hx
          rw [of_decide_eq_true heq] at hlt
          exact hlen hlt
        have hbooked : w.Booked (f.turnsOf n) := by
          rw [hnone]
          exact (hnew w (List.mem_of_getElem? hw)).booked
        exact hbooked
  | comes hw =>
    rename_i n errand ids rest id timers _
    refine hb.put { f with
      state := { f.state with timers }
      locks := (f.locks.enter id n).2 } rfl hw _ [] (List.append_nil _).symm ?_
    cases (f.locks.enter id n).1.2 <;> rfl
  | deletes hw horders =>
    rename_i n errand ids rest id
    have ho₁ : Orderly ((f.note n id errand).operate (Service.delete id)) := ho.congr rfl rfl
    exact hb.leave ho₁ rfl hw [id] (turns_note f n id errand) rfl rfl rfl (Or.inl rfl)
  | ends hw horders hbegin =>
    rename_i n errand ids rest id ignore news made state
    have ho₁ : Orderly { f.note n id errand with state } := ho.congr rfl rfl
    exact hb.finish ho₁ rfl made hw [id] (turns_note f n id errand) rfl rfl rfl
  | starts hw horders hbegin =>
    rename_i n errand ids rest id ignore news e now plan state
    have ho₁ : Orderly { f.note n id errand with state } := ho.congr rfl rfl
    exact hb.follow ho₁ rfl plan hw [id] (turns_note f n id errand) rfl rfl rfl
  | hears hw =>
    rename_i n errand ids rest id visit e now d next reply
    have ho₁ : Orderly (f.noteReply visit reply) := ho.congr rfl rfl
    exact hb.follow ho₁ rfl (next reply) hw []
      ((turns_noteReply f visit reply).trans (List.append_nil _).symm) rfl rfl rfl

/-- **A worker that is done and is not a poll has visited what it came for**, once. -/
theorem done (hb : Booked f) {n : Nat} {w : Worker} (hw : f.workers[n]? = some w)
    (htodo : w.todo = []) (hpoll : w.errand ≠ .poll) :
    f.turnsOf n = w.ids.map (·, w.errand) := by
  obtain ⟨⟨dropped, hall, hnone⟩, -, -⟩ := hb.each hw
  have hrest : w.rest = [] := by
    unfold Worker.rest
    rw [htodo]
    split <;> rfl
  rw [hrest, hnone hpoll] at hall
  simpa using hall

end Booked
end Service
end Cadence
