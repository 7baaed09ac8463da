/-
# Tasks in line

The tasks that run are served in line: the first one at a lock is inside, and behind it those wait
that came later (`Lined`). Coming, leaving and giving up to wait keep it so; between the leaving of
one task and the entering of the next the lock is handed on. So whatever is done to the tasks, it is
a sequence of events at their locks (`Tasks.lined_after`), and their table of locks is accurate
as any registry is (`registry_accounted`).

Key definitions: `Lined`, `Tasks.visits`, `Tasks.Op`, `Tasks.after`.
Key theorems: `Lined.comes`, `Lined.obtains`, `Lined.leaves`, `Lined.givesUp`, `Tasks.lined_after`,
`registry_accounted`.
-/
import Cadence.Proofs.Lock.Registry
import Mathlib.Data.List.Perm.Subperm

namespace Cadence

open Lock

variable {l : LockTable} {key : String}

/-! ### Giving up to wait -/

namespace LockTable

/-- What giving up to wait puts in place of the entry: the line without the task. -/
theorem Sound.abandon_eq (h : l.Sound) {task : Nat} (hmem : task ∈ l.line key)
    (hfirst : (l.line key).head? ≠ some task) : ∃ e : Entry, e.key = key ∧
      (l.get? key).isSome = true ∧ e.holder.isSome = true ∧ e.users = e.line.length ∧
        e.line = (l.line key).erase task ∧ l.abandon key task = l.put e := by
  unfold abandon
  cases hget : l.get? key with
  | none =>
    rw [line_of_none hget] at hmem
    cases hmem
  | some e =>
    obtain ⟨holder, hholder, hline⟩ := h.line_eq hget
    obtain ⟨hentry, hkey⟩ := mem_of_get? hget
    have husers := (h.held e hentry).2
    rw [hline] at hmem hfirst
    have hne : holder ≠ task := fun heq => hfirst (congrArg some heq)
    have hwaits : task ∈ e.waiters := (List.mem_cons.1 hmem).resolve_left (Ne.symm hne)
    have hpos := List.length_pos_of_mem hwaits
    refine ⟨{ e with users := e.users - 1, waiters := e.waiters.erase task }, hkey, rfl, ?_, ?_, ?_,
      rfl⟩
    · exact (h.held e hentry).1
    · show e.users - 1 = _
      rw [Entry.line, hholder, Option.toList_some, List.singleton_append, List.length_cons,
        List.length_erase_of_mem hwaits, husers]
      omega
    · rw [hline, List.erase_cons_tail (by simpa using hne), Entry.line, hholder]
      rfl

/-- **Giving up to wait takes a task out of the line**, wherever it stands behind the first one. -/
theorem Sound.line_abandon (h : l.Sound) {task : Nat} (hmem : task ∈ l.line key)
    (hfirst : (l.line key).head? ≠ some task) (key' : String) :
    (l.abandon key task).line key' =
      if key' = key then (l.line key).erase task else l.line key' := by
  obtain ⟨e, hkey, hget, -, husers, hline, heq⟩ := h.abandon_eq hmem hfirst
  rw [heq, line_put husers (by rwa [hkey]), hkey, hline]

theorem Sound.abandon (h : l.Sound) {task : Nat} (hmem : task ∈ l.line key)
    (hfirst : (l.line key).head? ≠ some task) : (l.abandon key task).Sound := by
  obtain ⟨e, -, -, hheld, husers, -, heq⟩ := h.abandon_eq hmem hfirst
  rw [heq]
  exact h.put husers fun _ => hheld

theorem get?_of_mem_line {task : Nat} (hmem : task ∈ l.line key) : ∃ e, l.get? key = some e := by
  cases hget : l.get? key with
  | none =>
    rw [line_of_none hget] at hmem
    cases hmem
  | some e => exact ⟨e, rfl⟩

end LockTable

/-! ### Lines -/

namespace Lock

/-- Visits that come about by events. -/
def Visits.Arises (t : Visits) : Prop := ∃ events, Visits.none.play events = some t

theorem Visits.Arises.step {t t' : Visits} (h : t.Arises) {e : Event} (hstep : t.step e = some t') :
    t'.Arises := by
  obtain ⟨events, hplay⟩ := h
  refine ⟨events ++ [e], ?_⟩
  unfold Visits.play at hplay ⊢
  rw [List.foldlM_append, hplay]
  simpa using hstep

theorem Visits.Arises.tallied {t : Visits} (h : t.Arises) : t.Tallied := by
  obtain ⟨events, hplay⟩ := h
  exact Visits.tallied_none.play hplay

end Lock

/-- The visits that have not ended stand in line at their locks: the first one is inside, and the
others wait. At one key the lock may have been handed on to the first one just now. -/
structure Lined (l : LockTable) (visits : List Visit) (handed : Option String) : Prop where
  sound : l.Sound
  arises : (Visits.mk l.registry visits).Arises
  nodup : ∀ key, (l.line key).Nodup
  mem : ∀ key number, number ∈ l.line key ↔
    ∃ v, visits[number]? = some v ∧ v.key = key ∧ v.stage ≠ .gone
  first : ∀ key number v, (l.line key).head? = some number → visits[number]? = some v →
    (v.stage = .inside ↔ handed ≠ some key)
  rest : ∀ key number v, number ∈ (l.line key).tail → visits[number]? = some v →
    v.stage = .waiting

namespace Lined

variable {visits : List Visit} {handed : Option String}

theorem empty : Lined .empty [] none :=
  ⟨LockTable.sound_empty, ⟨[], rfl⟩, fun _ => List.nodup_nil, by simp, nofun, nofun⟩

/-- Where nobody is in line, nothing has been handed on. -/
theorem settled (h : Lined l visits (some key)) (hline : l.line key = []) :
    Lined l visits none := by
  refine ⟨h.sound, h.arises, h.nodup, h.mem, fun key' number v hfirst hv => ?_, h.rest⟩
  by_cases hkey : key = key'
  · rw [← hkey, hline] at hfirst
    cases hfirst
  · have hiff := h.first key' number v hfirst hv
    simpa [hkey] using hiff

/-- Whoever is inside is the first one in line. -/
theorem head_of_inside (h : Lined l visits handed) {number : Nat} {v : Visit}
    (hv : visits[number]? = some v) (hin : v.stage = .inside) :
    (l.line v.key).head? = some number := by
  have hmem := (h.mem v.key number).2 ⟨v, hv, rfl, by rw [hin]; decide⟩
  have hrest := h.rest v.key number v
  cases hline : l.line v.key with
  | nil =>
    rw [hline] at hmem
    cases hmem
  | cons head tail =>
    rw [hline] at hmem hrest
    rcases List.mem_cons.1 hmem with rfl | htail
    · rfl
    · exact absurd (hin.symm.trans (hrest htail hv)) (by decide)

/-- The lock that is handed on is free. -/
theorem isFree (h : Lined l visits (some key)) {lock : Nat}
    (hlock : l.registry.locks key = some lock) : (Visits.mk l.registry visits).IsFree lock := by
  intro u hu hin heq
  obtain ⟨number, hnumber⟩ := List.mem_iff_getElem?.1 hu
  have htallied := h.arises.tallied
  have hsame := htallied.same u hu (by rw [hin]; decide)
  have hkey : u.key = key := htallied.apart _ _ lock (heq ▸ hsame) hlock
  have hhead := h.head_of_inside hnumber hin
  exact (h.first _ _ _ hhead hnumber).1 hin (congrArg some hkey.symm)

theorem getElem?_set {number : Nat} {v : Visit} (hv : visits[number]? = some v) (w : Visit)
    (m : Nat) : (visits.set number w)[m]? = if m = number then some w else visits[m]? := by
  have hlt := (List.getElem?_eq_some_iff.1 hv).1
  rw [List.getElem?_set]
  simp only [hlt, if_true, eq_comm (a := number)]

/-- A visit stands in the line of its key only. -/
theorem mem_iff_key (h : Lined l visits handed) {number : Nat} {v : Visit}
    (hv : visits[number]? = some v) (hthere : v.stage ≠ .gone) (key : String) :
    number ∈ l.line key ↔ v.key = key := by
  rw [h.mem]
  constructor
  · rintro ⟨u, hu, hkey, -⟩
    obtain rfl := Option.some.inj (hv.symm.trans hu)
    exact hkey
  · exact fun hkey => ⟨v, hv, hkey, hthere⟩

theorem eq_cons (h : Lined l visits handed) {number : Nat}
    (hfirst : (l.line key).head? = some number) :
    ∃ tail, l.line key = number :: tail ∧ number ∉ tail := by
  have hnodup := h.nodup key
  obtain ⟨tail, htail⟩ := List.head?_eq_some_iff.1 hfirst
  rw [htail] at hnodup
  exact ⟨tail, htail, (List.nodup_cons.1 hnodup).1⟩

/-- **The lock is handed on** to the first one in line. -/
theorem obtains (h : Lined l visits (some key)) {number : Nat} {v : Visit}
    (hfirst : (l.line key).head? = some number) (hv : visits[number]? = some v) :
    Lined l (visits.set number { v with stage := .inside }) none := by
  have hin := List.mem_of_head? hfirst
  obtain ⟨v', hv', hkey, hthere⟩ := (h.mem key number).1 hin
  obtain rfl := Option.some.inj (hv.symm.trans hv')
  have hnot : v.stage ≠ .inside := fun hin => (h.first _ _ _ hfirst hv).1 hin rfl
  have hwaits : v.stage = .waiting := by
    cases hstage : v.stage with
    | waiting => rfl
    | inside => exact absurd hstage hnot
    | gone => exact absurd hstage hthere
  have hfree := h.isFree
    (hkey ▸ h.arises.tallied.same v (List.mem_of_getElem? hv) hthere : _ = some v.lock)
  refine ⟨h.sound, h.arises.step (e := .obtains number) ?_, h.nodup, fun key' m => ?_,
    fun key' m u hhead hu => ?_, fun key' m u htail hu => ?_⟩
  · simp only [Visits.step, hv]
    rw [if_pos ⟨hwaits, hfree⟩]
  · rw [getElem?_set hv]
    by_cases hm : m = number
    · rw [hm, h.mem_iff_key hv hthere]
      simp
    · rw [if_neg hm, h.mem]
  · rw [getElem?_set hv] at hu
    by_cases hm : m = number
    · rw [if_pos hm] at hu
      cases hu
      exact iff_of_true rfl (Option.some_ne_none _).symm
    · rw [if_neg hm] at hu
      have hne : key ≠ key' := by
        rintro rfl
        exact hm (Option.some.inj (hhead.symm.trans hfirst))
      have hiff := h.first _ _ _ hhead hu
      simpa [hne] using hiff
  · rw [getElem?_set hv] at hu
    by_cases hm : m = number
    · -- the first one in its line does not stand behind another
      rw [hm] at htail
      have hkey' := (h.mem_iff_key hv hthere key').1 (List.mem_of_mem_tail htail)
      obtain rfl : key = key' := hkey.symm.trans hkey'
      obtain ⟨tail, hline, hnot⟩ := h.eq_cons hfirst
      rw [hline] at htail
      exact absurd htail hnot
    · rw [if_neg hm] at hu
      exact h.rest _ _ _ htail hu

/-- A visit that comes has the next number. -/
theorem getElem?_concat (visits : List Visit) (w : Visit) (m : Nat) :
    (visits ++ [w])[m]? = if m = visits.length then some w else visits[m]? := by
  rcases Nat.lt_trichotomy m visits.length with hlt | rfl | hgt
  · rw [List.getElem?_append_left hlt, if_neg (Nat.ne_of_lt hlt)]
  · rw [List.getElem?_concat_length, if_pos rfl]
  · rw [if_neg (Nat.ne_of_gt hgt), List.getElem?_eq_none (by rw [List.length_append]; exact hgt),
      List.getElem?_eq_none (Nat.le_of_lt hgt)]

/-- Nobody stands in line with a number that is still to be given. -/
theorem next_not_mem (h : Lined l visits handed) (key : String) : visits.length ∉ l.line key := by
  intro hmem
  obtain ⟨v, hv, -⟩ := (h.mem key _).1 hmem
  exact absurd (List.getElem?_eq_some_iff.1 hv).1 (Nat.lt_irrefl _)

/-- **A task that comes** goes to the end of the line, and has the lock handed on to it if there was
nobody. -/
theorem comes (h : Lined l visits none) (key : String) :
    Lined (l.enter key visits.length).2
      (visits ++ [⟨key, (l.enter key visits.length).1.1, .waiting⟩])
      (if (l.enter key visits.length).1.2 then some key else none) := by
  have hgranted := h.sound.enter_granted key visits.length
  have hstep : (Visits.mk l.registry visits).step (.comes key) =
      some ⟨(l.enter key visits.length).2.registry,
        visits ++ [⟨key, (l.enter key visits.length).1.1, .waiting⟩]⟩ := by
    simp only [Visits.step, LockTable.registry_enter l key visits.length]
  refine ⟨h.sound.enter key _, h.arises.step hstep,
    h.sound.nodup_enter h.nodup (h.next_not_mem key), fun key' m => ?_,
    fun key' m u hhead hu => ?_, fun key' m u htail hu => ?_⟩
  · rw [getElem?_concat, h.sound.mem_enter]
    by_cases hm : m = visits.length
    · subst hm
      simp [h.next_not_mem, eq_comm]
    · simp [hm, h.mem]
  · rw [getElem?_concat] at hu
    rcases h.sound.head_enter.1 hhead with hold | ⟨rfl, rfl, hnow⟩
    · have hm : m ≠ visits.length := by
        rintro rfl
        exact h.next_not_mem key' (List.mem_of_head? hold)
      rw [if_neg hm] at hu
      refine (h.first _ _ _ hold hu).trans (iff_of_true (Option.some_ne_none _).symm ?_)
      -- where somebody was first already, the lock was not to be had
      split
      · rintro ⟨⟩
        rw [hgranted.1 ‹_›] at hold
        cases hold
      · exact (Option.some_ne_none _).symm
    · rw [if_pos rfl] at hu
      cases hu
      rw [if_pos hnow]
      exact iff_of_false (show Stage.waiting ≠ .inside by decide) fun hne => hne rfl
  · rw [getElem?_concat] at hu
    by_cases hm : m = visits.length
    · rw [if_pos hm] at hu
      cases hu
      rfl
    · rw [if_neg hm] at hu
      exact h.rest key' m u ((h.sound.tail_enter htail).resolve_right hm) hu

theorem tail_erase_subset (line : List Nat) (number : Nat) :
    (line.erase number).tail ⊆ line.tail := by
  cases line with
  | nil => exact List.Subset.refl _
  | cons head tail =>
    by_cases hhead : head = number
    · rw [hhead, List.erase_cons_head]
      exact (List.tail_sublist tail).subset
    · rw [List.erase_cons_tail (by simpa using hhead)]
      exact List.erase_subset

/-- A visit that ends leaves its line, wherever it stands in it. -/
theorem removed (h : Lined l visits none) {number : Nat} {v : Visit}
    (hv : visits[number]? = some v) {l' : LockTable} (hsound : l'.Sound)
    (harises : (Visits.mk l'.registry (visits.set number { v with stage := .gone })).Arises)
    (hline : ∀ key, l'.line key = (l.line key).erase number)
    (hfirst : ∀ key m u, (l'.line key).head? = some m → visits[m]? = some u →
      (u.stage = .inside ↔ handed ≠ some key)) :
    Lined l' (visits.set number { v with stage := .gone }) handed := by
  have hnot : ∀ key, number ∉ l'.line key := by
    intro key hmem
    rw [hline] at hmem
    exact (h.nodup key).not_mem_erase hmem
  refine ⟨hsound, harises, fun key => ?_, fun key m => ?_, fun key m u hhead hu => ?_,
    fun key m u htail hu => ?_⟩
  · rw [hline]
    exact (h.nodup key).erase number
  · rw [getElem?_set hv]
    by_cases hm : m = number
    · simp [hm, hnot]
    · rw [if_neg hm, hline, List.mem_erase_of_ne hm, h.mem]
  · rw [getElem?_set hv, if_neg] at hu
    · exact hfirst key m u hhead hu
    · rintro rfl
      exact hnot key (List.mem_of_head? hhead)
  · rw [getElem?_set hv, if_neg] at hu
    · rw [hline] at htail
      exact h.rest key m u (tail_erase_subset _ _ htail) hu
    · rintro rfl
      exact hnot key (List.mem_of_mem_tail htail)

/-- **The one inside leaves** the line, and the lock is handed on. -/
theorem leaves (h : Lined l visits none) {number : Nat} {v : Visit}
    (hv : visits[number]? = some v) (hin : v.stage = .inside) :
    Lined (l.leave v.key).2 (visits.set number { v with stage := .gone }) (some v.key) := by
  have hthere : v.stage ≠ .gone := by rw [hin]; decide
  have hhead := h.head_of_inside hv hin
  obtain ⟨e, hget⟩ := LockTable.get?_of_mem_line (List.mem_of_head? hhead)
  have hstep : (Visits.mk l.registry visits).step (.leaves number) =
      some ⟨(l.leave v.key).2.registry, visits.set number { v with stage := .gone }⟩ := by
    simp only [Visits.step, Visits.goes, hv]
    rw [if_pos hin, LockTable.registry_leave hget]
    rfl
  have hline := h.sound.line_leave_erase hhead fun key hmem =>
    ((h.mem_iff_key hv hthere key).1 hmem).symm
  refine h.removed hv (h.sound.leave v.key) (h.arises.step hstep) hline fun key m u hfirst hu => ?_
  rw [h.sound.line_leave] at hfirst
  by_cases hkey : key = v.key
  · rw [if_pos hkey, ← hkey] at hfirst
    have hwaits := h.rest key m u (List.mem_of_head? hfirst) hu
    rw [hwaits, hkey]
    exact iff_of_false (by decide) fun hne => hne rfl
  · rw [if_neg hkey] at hfirst
    refine (h.first _ _ _ hfirst hu).trans (iff_of_true (Option.some_ne_none _).symm ?_)
    exact fun heq => hkey (Option.some.inj heq).symm

/-- **One that waits** goes from its place in the line. -/
theorem givesUp (h : Lined l visits none) {number : Nat} {v : Visit}
    (hv : visits[number]? = some v) (hwaits : v.stage = .waiting) :
    Lined (l.abandon v.key number) (visits.set number { v with stage := .gone }) none := by
  have hthere : v.stage ≠ .gone := by rw [hwaits]; decide
  have hmem : number ∈ l.line v.key := (h.mem_iff_key hv hthere _).2 rfl
  have hnot : ∀ key, (l.line key).head? ≠ some number := by
    intro key hhead
    have hin := (h.first key number v hhead hv).2 (Option.some_ne_none _).symm
    exact absurd (hwaits.symm.trans hin) (by decide)
  obtain ⟨e, hget⟩ := LockTable.get?_of_mem_line hmem
  have hstep : (Visits.mk l.registry visits).step (.givesUp number) =
      some ⟨(l.abandon v.key number).registry, visits.set number { v with stage := .gone }⟩ := by
    simp only [Visits.step, Visits.goes, hv]
    rw [if_pos hwaits, LockTable.registry_abandon hget number]
    rfl
  have hline : ∀ key, (l.abandon v.key number).line key = (l.line key).erase number := by
    intro key
    rw [h.sound.line_abandon hmem (hnot v.key)]
    by_cases hkey : key = v.key
    · rw [if_pos hkey, hkey]
    · rw [if_neg hkey, List.erase_of_not_mem]
      exact fun hmem => hkey ((h.mem_iff_key hv hthere key).1 hmem).symm
  refine h.removed hv (h.sound.abandon hmem (hnot v.key)) (h.arises.step hstep) hline
    fun key m u hfirst hu => h.first key m u ?_ hu
  rw [hline] at hfirst
  cases htasks : l.line key with
  | nil =>
    rw [htasks] at hfirst
    exact hfirst
  | cons head tail =>
    have hne : head ≠ number := fun heq => hnot key (by rw [htasks, heq]; rfl)
    rw [htasks, List.erase_cons_tail (by simpa using hne)] at hfirst
    exact hfirst

end Lined

/-! ### Tasks -/

/-- The visit of a task to the lock of its key. -/
def Task.visit (task : Task) : Visit := ⟨task.key, task.lock, task.stage⟩

/-- What is done to a task changes its visit only. -/
theorem map_visit_modify {tasks : List Task} {number : Nat} {task : Task}
    (htask : tasks[number]? = some task) (f : Task → Task) :
    (tasks.modify number f).map Task.visit =
      (tasks.map Task.visit).set number (f task).visit := by
  obtain ⟨hlt, rfl⟩ := List.getElem?_eq_some_iff.1 htask
  refine List.ext_getElem? fun m => ?_
  rw [List.getElem?_map, List.getElem?_modify, List.getElem?_set, List.getElem?_map]
  by_cases hm : number = m
  · subst hm
    simp [hlt]
  · simp [hm]

namespace Tasks

/-- The dictionaries that the tasks' table of locks keeps, and the visits of the tasks. -/
def visits (t : Tasks) : Visits := ⟨t.locks.registry, t.tasks.map Task.visit⟩

/-- The tasks stand in line at their locks. -/
def InLine (t : Tasks) (handed : Option String) : Prop := Lined t.locks t.visits.visits handed

variable {t : Tasks} {number : Nat} {task : Task}

theorem getElem?_visits (htask : t.tasks[number]? = some task) :
    t.visits.visits[number]? = some task.visit := by
  show (t.tasks.map Task.visit)[number]? = _
  rw [List.getElem?_map, htask]
  rfl

theorem mem_of_find? {name : String} (h : t.find? name = some (number, task)) :
    t.tasks[number]? = some task := by
  obtain ⟨⟨task', number'⟩, hfind, heq⟩ := Option.map_eq_some_iff.1 h
  cases heq
  exact List.mem_zipIdx_iff_getElem?.1 (List.mem_reverse.1 (List.mem_of_find?_eq_some hfind))

/-- No line is longer than there are tasks. -/
theorem InLine.length_le {handed : Option String} (h : t.InLine handed) (key : String) :
    (t.locks.line key).length ≤ t.tasks.length := by
  have hsub : t.locks.line key ⊆ List.range t.tasks.length := by
    intro m hm
    obtain ⟨v, hv, -⟩ := (h.mem key m).1 hm
    have hlt := (List.getElem?_eq_some_iff.1 hv).1
    exact List.mem_range.2 (by simpa [visits] using hlt)
  simpa using ((h.nodup key).subperm hsub).length_le

theorem InLine.enter (h : t.InLine .none) (name key : String) :
    (t.enter name key).2.InLine .none := by
  have hlength : t.visits.visits.length = t.tasks.length := List.length_map _
  have hcomes := h.comes key
  rw [hlength] at hcomes
  unfold InLine visits Tasks.enter
  dsimp only
  rw [List.map_append, List.map_singleton]
  cases hgranted : (t.locks.enter key t.tasks.length).1.2 with
  | false =>
    rw [hgranted] at hcomes
    exact hcomes
  | true =>
    rw [hgranted, if_pos rfl] at hcomes
    have hline : (t.locks.enter key t.tasks.length).2.line key = [t.tasks.length] := by
      rw [h.sound.line_enter, if_pos rfl, (h.sound.enter_granted key _).1 hgranted]
      rfl
    have hlast : ∀ v : Visit, (t.visits.visits ++ [v])[t.tasks.length]? = some v := by
      intro v
      rw [← hlength, List.getElem?_concat_length]
    have hin := hcomes.obtains (by rw [hline]; rfl) (hlast _)
    rw [← hlength, List.set_append_right _ _ (Nat.le_refl _), Nat.sub_self] at hin
    rw [← hlength]
    exact hin

/-- A task at the head of a line that the lock is handed on to gets in. -/
theorem InLine.obtains {key : String} (h : t.InLine (some key))
    (hfirst : (t.locks.line key).head? = some number) (htask : t.tasks[number]? = some task)
    {f : Task → Task} (hf : (f task).visit = { task.visit with stage := .inside }) :
    (t.modify number f).InLine .none := by
  have hin := Lined.obtains h hfirst (getElem?_visits htask)
  unfold InLine visits modify
  rw [map_visit_modify htask, hf]
  exact hin

/-- A task that is inside leaves, and the lock is handed on. -/
theorem InLine.leaves (h : t.InLine .none) (htask : t.tasks[number]? = some task)
    (hin : task.stage = .inside) {f : Task → Task}
    (hf : (f task).visit = { task.visit with stage := .gone }) :
    InLine ⟨(t.locks.leave task.key).2, (t.modify number f).tasks⟩ (some task.key) := by
  have hgone := Lined.leaves h (getElem?_visits htask) hin
  unfold InLine visits modify
  rw [map_visit_modify htask, hf]
  exact hgone

/-- Who gets the lock next is the first one in line then. -/
theorem InLine.next_eq {handed : Option String} (h : t.InLine handed) (key : String) :
    (t.locks.leave key).1 = ((t.locks.leave key).2.line key).head? := by
  rw [h.sound.leave_next, h.sound.line_leave, if_pos rfl]

/-- The tasks that get a lock in turn go in and out, one after the other. By recursion on the steps
that are left, which are enough for all that stand in the line. -/
theorem InLine.proceed : ∀ (steps : Nat) {number : Nat} {t : Tasks} {key : String},
    t.InLine (some key) → (t.locks.line key).head? = some number →
    (t.locks.line key).length ≤ steps → (proceed steps number t).2.InLine .none
  | 0, number, t, key, h, hfirst, hsteps => by
    rw [List.eq_nil_of_length_eq_zero (Nat.le_zero.1 hsteps)] at hfirst
    cases hfirst
  | steps + 1, number, t, key, h, hfirst, hsteps => by
    obtain ⟨v, hv, hkey, -⟩ := (h.mem key number).1 (List.mem_of_head? hfirst)
    have hv' : (t.tasks.map Task.visit)[number]? = some v := hv
    rw [List.getElem?_map] at hv'
    obtain ⟨task, htask, rfl⟩ := Option.map_eq_some_iff.1 hv'
    have hkey : task.key = key := hkey
    unfold Tasks.proceed
    rw [htask]
    dsimp only
    split
    · exact h.obtains hfirst htask rfl
    · -- the task passes: it gets the lock and leaves in one go
      have hin := h.obtains (f := fun task => { task with stage := .inside }) hfirst htask rfl
      have hinside : (t.modify number fun task => { task with stage := .inside }).tasks[number]? =
          some { task with stage := .inside } := by
        show (t.tasks.modify number _)[number]? = _
        rw [List.getElem?_modify, htask]
        simp
      have hgone := hin.leaves (f := fun task => { task with stage := .gone }) hinside rfl rfl
      have htasks : ((t.modify number fun task => { task with stage := .inside }).modify number
          fun task => { task with stage := .gone }).tasks =
            (t.modify number fun task => { task with stage := .gone }).tasks :=
        List.modify_modify_eq _ _ _ _
      rw [htasks] at hgone
      have hnext := h.next_eq task.key
      have hline := h.sound.line_leave task.key task.key
      rw [if_pos rfl] at hline
      split
      · rename_i hnone
        exact Lined.settled hgone (List.head?_eq_none_iff.1 (hnext.symm.trans hnone))
      · rename_i next hsome
        refine InLine.proceed steps hgone (hnext.symm.trans hsome) ?_
        show ((t.locks.leave task.key).2.line task.key).length ≤ steps
        rw [hline, List.length_tail, hkey]
        omega

theorem InLine.goOut (h : t.InLine .none) (htask : t.tasks[number]? = some task)
    (hin : task.stage = .inside) : (t.goOut number task).2.InLine .none := by
  have hgone := h.leaves (f := fun task => { task with stage := .gone, gateOpen := true }) htask hin
    rfl
  have hnext := h.next_eq task.key
  unfold Tasks.goOut
  dsimp only
  split
  · rename_i hnone
    exact Lined.settled hgone (List.head?_eq_none_iff.1 (hnext.symm.trans hnone))
  · rename_i next hsome
    exact InLine.proceed _ hgone (hnext.symm.trans hsome) (hgone.length_le task.key)

theorem InLine.openGate (h : t.InLine .none) (name : String) :
    (t.openGate name).2.InLine .none := by
  unfold Tasks.openGate
  split
  · exact h
  · rename_i number task hfind
    have htask := mem_of_find? hfind
    split
    · exact h.goOut htask ‹_›
    · -- the gate of a task that waits does not concern the lock
      have hsame : t.visits.visits.set number task.visit = t.visits.visits := by
        obtain ⟨hlt, hget⟩ := List.getElem?_eq_some_iff.1 (getElem?_visits htask)
        rw [← hget, List.set_getElem_self]
      unfold InLine visits modify
      rw [map_visit_modify htask]
      exact hsame ▸ h
    · exact h

theorem InLine.cancel (h : t.InLine .none) (name : String) : (t.cancel name).2.InLine .none := by
  unfold Tasks.cancel
  split
  · exact h
  · rename_i number task hfind
    have htask := mem_of_find? hfind
    split
    · exact h.goOut htask ‹_›
    · have hgone := Lined.givesUp h (getElem?_visits htask) ‹_›
      unfold InLine visits modify
      rw [map_visit_modify htask]
      exact hgone
    · exact h

/-- What can be done to tasks. -/
inductive Op where
  | enter (name key : String)
  | openGate (name : String)
  | cancel (name : String)
  deriving Repr, DecidableEq

/-- The tasks after something was done to them. -/
def perform (t : Tasks) : Op → Tasks
  | .enter name key => (t.enter name key).2
  | .openGate name => (t.openGate name).2
  | .cancel name => (t.cancel name).2

/-- The tasks after all that was done to them. -/
def after (ops : List Op) : Tasks := ops.foldl perform .none

theorem InLine.perform (h : t.InLine .none) (op : Op) : (t.perform op).InLine .none := by
  cases op with
  | enter name key => exact h.enter name key
  | openGate name => exact h.openGate name
  | cancel name => exact h.cancel name

/-- **Tasks stand in line**, whatever was done to them. -/
theorem inLine_after (ops : List Op) : (after ops).InLine .none :=
  List.foldlRecOn (motive := (InLine · .none)) ops perform Lined.empty
    fun _ h op _ => InLine.perform h op

end Tasks

theorem LockTable.size_eq_zero (hnone : ∀ key, l.registry.locks key = none) : l.size = 0 := by
  refine List.length_eq_zero_iff.2 (List.eq_nil_iff_forall_not_mem.2 fun e he => ?_)
  have hfind := Option.map_eq_none_iff.1 (hnone e.key)
  exact List.find?_eq_none.1 hfind e he (decide_eq_true rfl)

/-- **The registry of locks is accurate** after any events at locks that let in one task at a time,
in whatever order they do. What is done to tasks is such a sequence of events, and when all tasks
have gone their table has no lock. -/
theorem registry_accounted :
    (∀ (events : List Event) (t : Visits), Visits.none.play events = some t → t.Accounted) ∧
      ∀ ops : List Tasks.Op,
        (∃ events, Visits.none.play events = some (Tasks.after ops).visits) ∧
        ((∀ task ∈ (Tasks.after ops).tasks, task.stage = .gone) →
          (Tasks.after ops).locks.size = 0) := by
  have hplayed : ∀ (events : List Event) (t : Visits), Visits.none.play events = some t →
      t.Accounted := fun _ _ hplay => (Visits.tallied_none.play hplay).accounted
  refine ⟨hplayed, fun ops => ?_⟩
  obtain ⟨events, hplay⟩ := (Tasks.inLine_after ops).arises
  refine ⟨⟨events, hplay⟩, fun hgone => LockTable.size_eq_zero fun key => ?_⟩
  refine ((hplayed events _ hplay).empty (fun v hv => ?_) key).1
  obtain ⟨task, htask, rfl⟩ := List.mem_map.1 hv
  exact hgone task htask

/-- Two tasks are at one key and one is at another. The one that waits is cancelled, the one inside
goes, and a task that came meanwhile gets the lock. -/
theorem registry_accounted_cancelled :
    ∃ t, Visits.none.play [.comes "a", .obtains 0, .comes "a", .comes "b", .givesUp 1, .comes "a",
        .leaves 0, .obtains 3] = some t ∧ t.present "a" = 1 ∧ t.Accounted := by
  have hpresent : (Visits.none.play [.comes "a", .obtains 0, .comes "a", .comes "b", .givesUp 1,
      .comes "a", .leaves 0, .obtains 3]).map (·.present "a") = some 1 := by decide +kernel
  obtain ⟨t, hplay, hone⟩ := Option.map_eq_some_iff.1 hpresent
  exact ⟨t, hplay, hone, registry_accounted.1 _ t hplay⟩

end Cadence
