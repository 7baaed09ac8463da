/-
# The registry of locks by key

Two dictionaries are kept for the locks: the lock of a key, and how many tasks are there for it
(`Registry`). A task that comes takes the lock that is registered or registers one, and is counted;
when it goes, from inside or from where it waits, it is counted off, and the last one takes both
entries away. A table of locks keeps these dictionaries (`LockTable.registry_enter`,
`LockTable.registry_leave`, `LockTable.registry_abandon`).

What tasks do is a sequence of events in any order (`Visits.play`). All that is asked of the locks
is that one lets a task in only while no other is inside with it; who is next is left open. Then the
dictionaries tell exactly which tasks are there (`Visits.Tallied`): each event keeps it so
(`Visits.Tallied.step`), and so no two tasks with one key are inside, nothing is left behind, and no
task fails to find its entries when it goes (`Visits.Accounted`).

Key definitions: `Registry`, `Registry.enter`, `Registry.exit`, `Visits.step`, `Visits.Accounted`.
Key theorems: `LockTable.registry_enter`, `Visits.Tallied.step`, `Visits.Tallied.play`,
`Visits.Tallied.accounted`.
-/
import Cadence.Lock.Tasks
import Cadence.Proofs.Lock.Table
import Mathlib.Logic.Function.Basic

namespace Cadence
namespace Lock

/-! ### The dictionaries -/

/-- The dictionaries of the locks by key: the lock of a key, and how many tasks are there for it.
Locks are numbered as they are made. -/
structure Registry where
  locks : String → Option Nat
  users : String → Option Nat
  fresh : Nat

namespace Registry

/-- Nothing is registered. -/
def empty : Registry := ⟨fun _ => none, fun _ => none, 0⟩

/-- A task comes for a key: it gets the lock of the key, or a new one, and is counted. -/
def enter (r : Registry) (key : String) : Nat × Registry :=
  let lock := (r.locks key).getD r.fresh
  (lock, ⟨Function.update r.locks key (some lock),
    Function.update r.users key (some ((r.users key).getD 0 + 1)),
    if (r.locks key).isSome then r.fresh else r.fresh + 1⟩)

/-- A task goes that came for a key: it is counted off, and the last one takes both entries away.
There is no registry where one of them is not found. -/
def exit (r : Registry) (key : String) : Option Registry :=
  match r.users key with
  | none => none
  | some count =>
    if count - 1 = 0 then
      (r.locks key).map fun _ =>
        { r with
          locks := Function.update r.locks key none
          users := Function.update r.users key none }
    else some { r with users := Function.update r.users key (some (count - 1)) }

variable {r : Registry} {key key' : String}

/-- The lock that a task gets is that of its key, or a new one with the next number. -/
theorem enter_lock (r : Registry) (key : String) :
    r.locks key = some (r.enter key).1 ∧ (r.enter key).2.fresh = r.fresh ∨
      r.locks key = none ∧ (r.enter key).1 = r.fresh ∧ (r.enter key).2.fresh = r.fresh + 1 := by
  unfold enter
  cases r.locks key with
  | none => exact Or.inr ⟨rfl, rfl, rfl⟩
  | some lock => exact Or.inl ⟨rfl, rfl⟩

/-- That lock is registered for the key then, and other keys have the locks that they had. -/
theorem locks_enter {lock : Nat} : (r.enter key).2.locks key' = some lock ↔
    key' = key ∧ lock = (r.enter key).1 ∨ key' ≠ key ∧ r.locks key' = some lock := by
  show Function.update r.locks key (some (r.enter key).1) key' = some lock ↔ _
  rw [Function.update_apply]
  by_cases hkey : key' = key
  · simp [hkey, eq_comm]
  · simp [hkey]

theorem users_enter : (r.enter key).2.users key' =
    if key' = key then some ((r.users key).getD 0 + 1) else r.users key' :=
  Function.update_apply ..

end Registry

end Lock

open Lock

namespace LockTable

/-- The dictionaries that a table of locks keeps. -/
def registry (l : LockTable) : Registry :=
  ⟨fun key => (l.get? key).map Entry.lock, fun key => (l.get? key).map Entry.users, l.fresh⟩

variable {l : LockTable} {key : String}

@[simp] theorem registry_empty : empty.registry = .empty := rfl

/-- The entries after one was put in place of that of its key. -/
theorem get?_put_eq {e e' : Entry} (hget : l.get? e'.key = some e) :
    (l.put e').get? =
      Function.update l.get? e'.key (if e'.users = 0 then none else some e') := by
  funext key
  rw [get?_put, hget, Function.update_apply]
  rfl

/-- The dictionaries after an entry was put in place of that of its key. -/
theorem registry_put {e e' : Entry} (hget : l.get? key = some e) (hkey : e'.key = key)
    (hlock : e'.lock = e.lock) : (l.put e').registry =
      if e'.users = 0 then
        { l.registry with
          locks := Function.update l.registry.locks key none
          users := Function.update l.registry.users key none }
      else { l.registry with users := Function.update l.registry.users key (some e'.users) } := by
  subst hkey
  have hlocks : (l.put e').registry.locks =
      Function.update l.registry.locks e'.key (if e'.users = 0 then none else some e'.lock) := by
    show Option.map Entry.lock ∘ (l.put e').get? = _
    rw [get?_put_eq hget, Function.comp_update, apply_ite (Option.map Entry.lock)]
    rfl
  have husers : (l.put e').registry.users =
      Function.update l.registry.users e'.key (if e'.users = 0 then none else some e'.users) := by
    show Option.map Entry.users ∘ (l.put e').get? = _
    rw [get?_put_eq hget, Function.comp_update, apply_ite (Option.map Entry.users)]
    rfl
  have hsame : l.registry.locks e'.key = some e'.lock := by
    rw [hlock]
    exact congrArg (Option.map Entry.lock) hget
  have hmk : (l.put e').registry = ⟨_, _, l.fresh⟩ := congrArg₂ (Registry.mk · · _) hlocks husers
  rw [hmk]
  split
  · rfl
  · rw [Function.update_eq_self_iff.2 hsame.symm]
    rfl

/-- The entries after one was put behind them, for a key that had none. -/
theorem get?_append {e : Entry} {fresh : Nat} (hget : l.get? e.key = none) :
    (LockTable.mk (l.entries ++ [e]) fresh).get? = Function.update l.get? e.key (some e) := by
  funext key
  rw [Function.update_apply]
  unfold get? at hget ⊢
  rw [List.find?_append]
  by_cases hkey : key = e.key
  · rw [hkey, hget]
    simp
  · rw [if_neg hkey, List.find?_cons_of_neg (by simpa using Ne.symm hkey), List.find?_nil,
      Option.or_none]

/-- **Coming for a lock** is coming to the registry. -/
theorem registry_enter (l : LockTable) (key : String) (task : Nat) :
    l.registry.enter key = ((l.enter key task).1.1, (l.enter key task).2.registry) := by
  unfold enter
  cases hget : l.get? key with
  | none =>
    have hlocks : l.registry.locks key = none := congrArg (Option.map Entry.lock) hget
    have husers : l.registry.users key = none := congrArg (Option.map Entry.users) hget
    have hnew : ∀ e : Entry, e.key = key →
        (LockTable.mk (l.entries ++ [e]) (l.fresh + 1)).registry =
          ⟨Function.update l.registry.locks key (some e.lock),
            Function.update l.registry.users key (some e.users), l.fresh + 1⟩ := by
      intro e hkey
      subst hkey
      refine congrArg₂ (Registry.mk · · _) ?_ ?_
      · show Option.map Entry.lock ∘ LockTable.get? _ = _
        rw [get?_append hget, Function.comp_update]
        rfl
      · show Option.map Entry.users ∘ LockTable.get? _ = _
        rw [get?_append hget, Function.comp_update]
        rfl
    dsimp only
    rw [hnew _ rfl, Registry.enter, hlocks, husers]
    rfl
  | some e =>
    have hkey := (mem_of_get? hget).2
    have hlocks : l.registry.locks key = some e.lock := congrArg (Option.map Entry.lock) hget
    have husers : l.registry.users key = some e.users := congrArg (Option.map Entry.users) hget
    have hsame : Function.update l.registry.locks key (some e.lock) = l.registry.locks :=
      Function.update_eq_self_iff.2 hlocks.symm
    have hput : ∀ e' : Entry, e'.key = e.key → e'.lock = e.lock → e'.users = e.users + 1 →
        l.registry.enter key = (e.lock, (l.put e').registry) := by
      intro e' hkey' hlock' husers'
      rw [registry_put hget (hkey'.trans hkey) hlock', husers', if_neg (Nat.succ_ne_zero _),
        Registry.enter, hlocks, husers]
      simp only [Option.getD_some, Option.isSome_some, if_true, hsame]
    dsimp only
    split
    · exact hput _ rfl rfl rfl
    · exact hput _ rfl rfl rfl

/-- An entry with one user less stands for a task that goes. -/
theorem registry_exit {e e' : Entry} (hget : l.get? key = some e) (hkey : e'.key = key)
    (hlock : e'.lock = e.lock) (husers : e'.users = e.users - 1) :
    l.registry.exit key = some (l.put e').registry := by
  have hcount : l.registry.users key = some e.users := congrArg (Option.map Entry.users) hget
  have hfound : l.registry.locks key = some e.lock := congrArg (Option.map Entry.lock) hget
  rw [registry_put hget hkey hlock, Registry.exit, hcount, hfound, husers]
  dsimp only
  split
  · rfl
  · rfl

/-- **Leaving a lock** is going from the registry. -/
theorem registry_leave {e : Entry} (hget : l.get? key = some e) :
    l.registry.exit key = some (l.leave key).2.registry := by
  unfold leave
  rw [hget]
  exact registry_exit hget (mem_of_get? hget).2 rfl rfl

/-- **Giving up to wait** is going from the registry as well. -/
theorem registry_abandon {e : Entry} (hget : l.get? key = some e) (task : Nat) :
    l.registry.exit key = some (l.abandon key task).registry := by
  unfold abandon
  rw [hget]
  exact registry_exit hget (mem_of_get? hget).2 rfl rfl

end LockTable

/-! ### Visits -/

namespace Lock

/-- A task's visit to the lock of a key, from its coming to its going: the lock it got, and how far
it is. -/
structure Visit where
  key : String
  lock : Nat
  stage : Stage
  deriving Repr, DecidableEq

/-- Whether a visit to a key has not ended. -/
def Visit.isPresent (key : String) (v : Visit) : Bool := v.key = key && v.stage != .gone

/-- Whether a visit to a key has the lock. -/
def Visit.isInside (key : String) (v : Visit) : Bool := v.key = key && v.stage = .inside

/-- What happens to locks. A task leaves the inside in the same way whether it is done or fails. -/
inductive Event where
  | comes (key : String)
  | obtains (number : Nat)
  | leaves (number : Nat)
  | givesUp (number : Nat)
  deriving Repr, DecidableEq

/-- The registry, and all visits there ever were, by their numbers. -/
structure Visits where
  registry : Registry
  visits : List Visit

namespace Visits

/-- Nobody has come yet. -/
def none : Visits := ⟨.empty, []⟩

/-- How many visits to a key have not ended. -/
def present (t : Visits) (key : String) : Nat := t.visits.countP (Visit.isPresent key)

/-- How many visits to a key have the lock. -/
def inside (t : Visits) (key : String) : Nat := t.visits.countP (Visit.isInside key)

/-- A lock is free if nobody is inside with it. -/
def IsFree (t : Visits) (lock : Nat) : Prop := ∀ v ∈ t.visits, v.stage = .inside → v.lock ≠ lock

instance (t : Visits) (lock : Nat) : Decidable (t.IsFree lock) :=
  inferInstanceAs (Decidable (∀ v ∈ t.visits, v.stage = .inside → v.lock ≠ lock))

/-- The end of a visit that is at a stage. -/
def goes (t : Visits) (number : Nat) (stage : Stage) : Option Visits :=
  match t.visits[number]? with
  | some v =>
    if v.stage = stage then
      (t.registry.exit v.key).map fun registry =>
        ⟨registry, t.visits.set number { v with stage := .gone }⟩
    else .none
  | .none => .none

/-- What comes of an event, if it is possible. A lock lets a task in only while it is free. -/
def step (t : Visits) : Event → Option Visits
  | .comes key =>
    let (lock, registry) := t.registry.enter key
    some ⟨registry, t.visits ++ [⟨key, lock, .waiting⟩]⟩
  | .obtains number =>
    match t.visits[number]? with
    | some v =>
      if v.stage = .waiting ∧ t.IsFree v.lock then
        some { t with visits := t.visits.set number { v with stage := .inside } }
      else .none
    | .none => .none
  | .leaves number => t.goes number .inside
  | .givesUp number => t.goes number .waiting

/-- What comes of events, if all are possible in their order. -/
def play (t : Visits) (events : List Event) : Option Visits := events.foldlM step t

/-! ### What the registry tells -/

/-- The dictionaries tell exactly which visits have not ended: their number for each key, and the
lock that all of them got; different keys have different locks. -/
structure Tallied (t : Visits) : Prop where
  users : ∀ key, t.registry.users key = if t.present key = 0 then .none else some (t.present key)
  registered : ∀ key, (t.registry.locks key).isSome = true ↔ t.present key ≠ 0
  same : ∀ v ∈ t.visits, v.stage ≠ .gone → t.registry.locks v.key = some v.lock
  exclusive : ∀ key, t.inside key ≤ 1
  numbered : ∀ key lock, t.registry.locks key = some lock → lock < t.registry.fresh
  apart : ∀ key key' lock, t.registry.locks key = some lock →
    t.registry.locks key' = some lock → key = key'

/-- **The registry is accurate**: for each key it counts the visits that have not ended and has a
lock exactly if there are some; all of these have that lock, and at most one of them is inside.
Where no visit is left, nothing is registered, and no task misses its entries when it goes. -/
structure Accounted (t : Visits) : Prop where
  count : ∀ key, (t.registry.users key).getD 0 = t.present key
  registered : ∀ key, (t.registry.locks key).isSome = true ↔ 0 < (t.registry.users key).getD 0
  same : ∀ v ∈ t.visits, v.stage ≠ .gone → t.registry.locks v.key = some v.lock
  exclusive : ∀ key, t.inside key ≤ 1
  empty : (∀ v ∈ t.visits, v.stage = .gone) →
    ∀ key, t.registry.locks key = .none ∧ t.registry.users key = .none
  goes : ∀ v ∈ t.visits, v.stage ≠ .gone → (t.registry.exit v.key).isSome = true

variable {t t' : Visits}

theorem present_eq_zero {key : String} :
    t.present key = 0 ↔ ∀ v ∈ t.visits, v.key = key → v.stage = .gone := by
  unfold present
  rw [List.countP_eq_zero]
  simp [Visit.isPresent]

theorem Tallied.accounted (h : t.Tallied) : t.Accounted := by
  have hcount : ∀ key, (t.registry.users key).getD 0 = t.present key := by
    intro key
    rw [h.users]
    split
    · exact (Eq.symm ‹_›)
    · rfl
  have hthere : ∀ v ∈ t.visits, v.stage ≠ .gone → t.present v.key ≠ 0 :=
    fun v hv hstage hzero => hstage (present_eq_zero.1 hzero v hv rfl)
  refine ⟨hcount, fun key => ?_, h.same, h.exclusive, fun hgone key => ?_, fun v hv hstage => ?_⟩
  · rw [hcount, h.registered, Nat.pos_iff_ne_zero]
  · have hzero : t.present key = 0 := present_eq_zero.2 fun v hv _ => hgone v hv
    refine ⟨?_, by rw [h.users, if_pos hzero]⟩
    rw [← Option.not_isSome_iff_eq_none, h.registered]
    exact fun hne => hne hzero
  · have hne := hthere v hv hstage
    unfold Registry.exit
    rw [h.users, if_neg hne, h.same v hv hstage]
    dsimp only
    split <;> rfl

theorem tallied_none : none.Tallied :=
  ⟨fun _ => rfl, fun _ => iff_of_false Bool.false_ne_true fun h => h rfl, nofun,
    fun _ => Nat.zero_le 1, nofun, nofun⟩

/-! ### One event -/

theorem countP_set_add {p : Visit → Bool} {visits : List Visit} {number : Nat} {v : Visit}
    (hv : visits[number]? = some v) (w : Visit) :
    (visits.set number w).countP p + (if p v = true then 1 else 0) =
      visits.countP p + (if p w = true then 1 else 0) := by
  obtain ⟨hlt, rfl⟩ := List.getElem?_eq_some_iff.1 hv
  rw [List.countP_set hlt]
  have hpos : p visits[number] = true → 0 < visits.countP p :=
    fun hp => List.countP_pos_iff.2 ⟨_, List.getElem_mem hlt, hp⟩
  split
  · have := hpos ‹_›
    omega
  · omega

/-- The numbers of the visits to a key when one of them goes from one stage to another. -/
theorem present_set {number : Nat} {v : Visit} (hv : t.visits[number]? = some v) (r : Registry)
    (stage : Stage) (key : String) :
    (Visits.mk r (t.visits.set number { v with stage })).present key +
        (if v.key = key ∧ v.stage ≠ .gone then 1 else 0) =
      t.present key + (if v.key = key ∧ stage ≠ .gone then 1 else 0) := by
  have hcount := countP_set_add (p := Visit.isPresent key) hv { v with stage }
  simpa [present, Visit.isPresent] using hcount

theorem inside_set {number : Nat} {v : Visit} (hv : t.visits[number]? = some v) (r : Registry)
    (stage : Stage) (key : String) :
    (Visits.mk r (t.visits.set number { v with stage })).inside key +
        (if v.key = key ∧ v.stage = .inside then 1 else 0) =
      t.inside key + (if v.key = key ∧ stage = .inside then 1 else 0) := by
  have hcount := countP_set_add (p := Visit.isInside key) hv { v with stage }
  simpa [inside, Visit.isInside] using hcount

theorem present_comes (t : Visits) (r : Registry) (key : String) (lock : Nat) (key' : String) :
    (Visits.mk r (t.visits ++ [⟨key, lock, .waiting⟩])).present key' =
      t.present key' + if key = key' then 1 else 0 := by
  simp [present, List.countP_append, List.countP_singleton, Visit.isPresent]

theorem inside_comes (t : Visits) (r : Registry) (key : String) (lock : Nat) (key' : String) :
    (Visits.mk r (t.visits ++ [⟨key, lock, .waiting⟩])).inside key' = t.inside key' := by
  simp [inside, List.countP_append, Visit.isInside]

/-- No other key has the lock that a task gets. -/
theorem Tallied.key_of_enter (h : t.Tallied) {key key' : String}
    (hsome : t.registry.locks key' = some (t.registry.enter key).1) : key' = key := by
  rcases t.registry.enter_lock key with ⟨hfound, -⟩ | ⟨-, hnew, -⟩
  · exact h.apart _ _ _ hsome hfound
  · rw [hnew] at hsome
    exact absurd (h.numbered _ _ hsome) (Nat.lt_irrefl _)

theorem Tallied.numbered_enter (h : t.Tallied) {key key' : String} {lock : Nat}
    (hsome : (t.registry.enter key).2.locks key' = some lock) :
    lock < (t.registry.enter key).2.fresh := by
  rcases Registry.locks_enter.1 hsome with ⟨-, rfl⟩ | ⟨-, hold⟩
  · rcases t.registry.enter_lock key with ⟨hfound, hfresh⟩ | ⟨-, hnew, hfresh⟩
    · rw [hfresh]
      exact h.numbered _ _ hfound
    · rw [hfresh, hnew]
      exact Nat.lt_succ_self _
  · have hlt := h.numbered _ _ hold
    rcases t.registry.enter_lock key with ⟨-, hfresh⟩ | ⟨-, -, hfresh⟩
    · rwa [hfresh]
    · rw [hfresh]
      exact Nat.lt_succ_of_lt hlt

theorem Tallied.apart_enter (h : t.Tallied) {key key₁ key₂ : String} {lock : Nat}
    (h₁ : (t.registry.enter key).2.locks key₁ = some lock)
    (h₂ : (t.registry.enter key).2.locks key₂ = some lock) : key₁ = key₂ := by
  rcases Registry.locks_enter.1 h₁ with ⟨rfl, rfl⟩ | ⟨hne₁, hold₁⟩
  · rcases Registry.locks_enter.1 h₂ with ⟨rfl, -⟩ | ⟨hne₂, hold₂⟩
    · rfl
    · exact absurd (h.key_of_enter hold₂) hne₂
  · rcases Registry.locks_enter.1 h₂ with ⟨rfl, rfl⟩ | ⟨-, hold₂⟩
    · exact absurd (h.key_of_enter hold₁) hne₁
    · exact h.apart _ _ _ hold₁ hold₂

/-- Whoever is there keeps the lock that is registered when another task comes. -/
theorem Tallied.same_enter (h : t.Tallied) (key : String) {v : Visit} (hv : v ∈ t.visits)
    (hstage : v.stage ≠ .gone) : (t.registry.enter key).2.locks v.key = some v.lock := by
  have hsame := h.same v hv hstage
  refine Registry.locks_enter.2 ?_
  by_cases hkey : v.key = key
  · rw [hkey] at hsame
    rcases t.registry.enter_lock key with ⟨hfound, -⟩ | ⟨hnone, -⟩
    · exact Or.inl ⟨hkey, Option.some.inj (hsame.symm.trans hfound)⟩
    · exact absurd (hsame.symm.trans hnone) (Option.some_ne_none _)
  · exact Or.inr ⟨hkey, hsame⟩

/-- A task that comes is one more at its key. -/
theorem Tallied.comes (h : t.Tallied) (key : String) :
    (Visits.mk (t.registry.enter key).2
      (t.visits ++ [⟨key, (t.registry.enter key).1, .waiting⟩])).Tallied := by
  refine ⟨fun key' => ?_, fun key' => ?_, fun v hv hstage => ?_, fun key' => ?_,
    fun _ _ => h.numbered_enter, fun _ _ _ => h.apart_enter⟩
  · show (t.registry.enter key).2.users key' = _
    rw [present_comes, Registry.users_enter, h.accounted.count]
    by_cases hkey : key' = key
    · simp [hkey]
    · simp [hkey, Ne.symm hkey, h.users key']
  · show ((t.registry.enter key).2.locks key').isSome = true ↔ _
    rw [present_comes]
    by_cases hkey : key' = key
    · have hsome : (t.registry.enter key).2.locks key' = some _ :=
        Registry.locks_enter.2 (Or.inl ⟨hkey, rfl⟩)
      rw [hsome]
      simp [hkey]
    · have hiff := h.registered key'
      rw [Option.isSome_iff_exists] at hiff ⊢
      simpa [Registry.locks_enter, hkey, Ne.symm hkey] using hiff
  · rcases List.mem_append.1 hv with hv | hv
    · exact h.same_enter key hv hstage
    · rw [List.mem_singleton.1 hv]
      exact Registry.locks_enter.2 (Or.inl ⟨rfl, rfl⟩)
  · rw [inside_comes]
    exact h.exclusive key'

/-- A task that gets a free lock is the only one inside at its key. -/
theorem Tallied.obtains (h : t.Tallied) {number : Nat} {v : Visit}
    (hv : t.visits[number]? = some v) (hw : v.stage = .waiting) (hfree : t.IsFree v.lock) :
    (Visits.mk t.registry (t.visits.set number { v with stage := .inside })).Tallied := by
  have hthere : v.stage ≠ .gone := by rw [hw]; decide
  have hmem := List.mem_of_getElem? hv
  have hpresent : ∀ key, (Visits.mk t.registry (t.visits.set number
      { v with stage := .inside })).present key = t.present key := by
    intro key
    have hset := present_set hv t.registry .inside key
    simpa [hw] using hset
  refine ⟨fun key => ?_, fun key => ?_, fun u hu hstage => ?_, fun key => ?_, h.numbered, h.apart⟩
  · rw [hpresent]
    exact h.users key
  · rw [hpresent]
    exact h.registered key
  · rcases List.mem_or_eq_of_mem_set hu with hu | rfl
    · exact h.same u hu hstage
    · exact h.same v hmem hthere
  · have hset := inside_set hv t.registry .inside key
    by_cases hkey : v.key = key
    · -- whoever were inside at the key would be inside with its lock
      have hnone : t.inside key = 0 := by
        unfold inside
        rw [List.countP_eq_zero]
        intro u hu hin
        simp only [Visit.isInside, Bool.and_eq_true, decide_eq_true_eq] at hin
        have hsame := h.same u hu (by rw [hin.2]; decide)
        rw [hin.1, ← hkey, h.same v hmem hthere] at hsame
        exact hfree u hu hin.2 (Option.some.inj hsame).symm
      simp only [hnone, hw, reduceCtorEq, and_false, if_false, and_true] at hset
      split at hset <;> omega
    · have := h.exclusive key
      simp only [hkey, false_and, if_false] at hset
      omega

/-- Going from a key at which some are: one is counted off, and where it was the last one, the lock
is not registered any more. -/
theorem Tallied.exit_eq (h : t.Tallied) {key : String} (hpos : t.present key ≠ 0) {r : Registry}
    (hr : t.registry.exit key = some r) (key' : String) :
    (r.users key' = if key' = key then
        (if t.present key - 1 = 0 then .none else some (t.present key - 1))
      else t.registry.users key') ∧
    (r.locks key' = if key' = key ∧ t.present key - 1 = 0 then .none
      else t.registry.locks key') ∧ r.fresh = t.registry.fresh := by
  obtain ⟨lock, hlock⟩ := Option.isSome_iff_exists.1 ((h.registered key).2 hpos)
  unfold Registry.exit at hr
  rw [h.users, if_neg hpos, hlock] at hr
  dsimp only at hr
  split at hr
  · rename_i hlast
    cases hr
    simp [Function.update_apply, hlast]
  · rename_i hmore
    cases hr
    simp [Function.update_apply, hmore]

/-- A visit that ends is counted no more. -/
theorem present_goes {number : Nat} {v : Visit} (hv : t.visits[number]? = some v)
    (hthere : v.stage ≠ .gone) (r : Registry) (key : String) :
    (Visits.mk r (t.visits.set number { v with stage := .gone })).present key =
      if key = v.key then t.present v.key - 1 else t.present key := by
  have hset := present_set hv r .gone key
  simp only [hthere, ne_eq, not_true_eq_false, not_false_eq_true, and_false, and_true,
    if_false] at hset
  by_cases hkey : v.key = key
  · subst hkey
    rw [if_pos rfl] at hset
    rw [if_pos rfl]
    omega
  · rw [if_neg hkey] at hset
    rw [if_neg (Ne.symm hkey)]
    omega

/-- A task that goes is one less at its key. -/
theorem Tallied.goes (h : t.Tallied) {number : Nat} {v : Visit}
    (hv : t.visits[number]? = some v) (hthere : v.stage ≠ .gone) {r : Registry}
    (hr : t.registry.exit v.key = some r) :
    (Visits.mk r (t.visits.set number { v with stage := .gone })).Tallied := by
  have hmem := List.mem_of_getElem? hv
  have hpos : t.present v.key ≠ 0 := fun hzero => hthere (present_eq_zero.1 hzero v hmem rfl)
  have hpresent := present_goes hv hthere r
  have hexit := h.exit_eq hpos hr
  have hkept : ∀ {key : String} {lock : Nat}, r.locks key = some lock →
      t.registry.locks key = some lock := by
    intro key lock hsome
    rw [(hexit key).2.1] at hsome
    split at hsome
    · cases hsome
    · exact hsome
  refine ⟨fun key => ?_, fun key => ?_, fun u hu hstage => ?_, fun key => ?_,
    fun key lock hsome => ?_, fun key key' lock h₁ h₂ => h.apart _ _ _ (hkept h₁) (hkept h₂)⟩
  · show r.users key = _
    rw [hpresent, (hexit key).1]
    by_cases hkey : key = v.key
    · simp only [hkey, if_true]
    · simp only [hkey, if_false]
      exact h.users key
  · show (r.locks key).isSome = true ↔ _
    rw [hpresent, (hexit key).2.1]
    have hregistered := h.registered key
    by_cases hkey : key = v.key
    · rw [hkey] at hregistered
      by_cases hlast : t.present v.key - 1 = 0
      · simp [hkey, hlast]
      · simpa [hkey, hlast] using hregistered.2 hpos
    · simpa [hkey] using hregistered
  · show r.locks u.key = some u.lock
    have hold : u ∈ t.visits := by
      rcases List.mem_or_eq_of_mem_set hu with hold | rfl
      · exact hold
      · exact absurd rfl hstage
    rw [(hexit u.key).2.1, h.same u hold hstage, if_neg]
    -- the lock is kept for the sake of the visit itself
    rintro ⟨hkey, hlast⟩
    refine hstage (present_eq_zero.1 ?_ u hu rfl)
    rw [hpresent, if_pos hkey]
    exact hlast
  · have hset := inside_set hv r .gone key
    have hexclusive := h.exclusive key
    simp only [reduceCtorEq, and_false, if_false] at hset
    omega
  · show lock < r.fresh
    rw [(hexit key).2.2]
    exact h.numbered _ _ (hkept hsome)

/-! ### All events -/

/-- What the end of a visit comes to. -/
theorem goes_eq_some {number : Nat} {stage : Stage} (h : t.goes number stage = some t') :
    ∃ v r, t.visits[number]? = some v ∧ v.stage = stage ∧ t.registry.exit v.key = some r ∧
      t' = ⟨r, t.visits.set number { v with stage := .gone }⟩ := by
  unfold Visits.goes at h
  split at h
  · rename_i v hv
    split at h
    · rename_i hstage
      obtain ⟨r, hr, rfl⟩ := Option.map_eq_some_iff.1 h
      exact ⟨v, r, hv, hstage, hr, rfl⟩
    · cases h
  · cases h

/-- **Every event keeps the registry accurate.** -/
theorem Tallied.step (h : t.Tallied) {e : Event} (hstep : t.step e = some t') : t'.Tallied := by
  cases e with
  | comes key =>
    cases hstep
    exact h.comes key
  | obtains number =>
    simp only [Visits.step] at hstep
    split at hstep
    · rename_i v hv
      split at hstep
      · rename_i hwaits
        cases hstep
        exact h.obtains hv hwaits.1 hwaits.2
      · cases hstep
    · cases hstep
  | leaves number =>
    obtain ⟨v, r, hv, hstage, hr, rfl⟩ := goes_eq_some hstep
    exact h.goes hv (by rw [hstage]; decide) hr
  | givesUp number =>
    obtain ⟨v, r, hv, hstage, hr, rfl⟩ := goes_eq_some hstep
    exact h.goes hv (by rw [hstage]; decide) hr

/-- So does every sequence of events. -/
theorem Tallied.play : ∀ {events : List Event} {t : Visits}, t.Tallied →
    t.play events = some t' → t'.Tallied
  | [], t, h, hplay => by
    cases hplay
    exact h
  | e :: rest, t, h, hplay => by
    obtain ⟨next, hstep, hrest⟩ := Option.bind_eq_some_iff.1 hplay
    exact (h.step hstep).play hrest

end Visits

end Lock
end Cadence
