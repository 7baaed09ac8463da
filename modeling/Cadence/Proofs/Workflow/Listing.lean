/-
# The list of workflows

Listing reads every file of the store and keeps of each id the record with the greatest version, in a
list without a second record of any id (`Best`). The list is then put in order by the time of the
last change. A list of times has an order only if all or none of them have offsets; here all have.

What is listed is said by records and not by files: the store holds the files of some records, and
all of them can be read.

Key definitions: `Best`, `NewestFirst`.
Key theorems: `Best.add`, `accepts_nameOf`, `latestRecords_eq`, `latestRecords_of`.
-/
import Cadence.Proofs.Workflow.Versions
import Mathlib.Data.Int.Order.Basic
import Mathlib.Data.List.Nodup

namespace Cadence
namespace Workflow

open Time

/-! ### The greatest version of each id -/

/-- A list has exactly one record of each id that was seen, and none of a greater version was seen. -/
structure Best (seen latest : List Record) : Prop where
  distinct : (latest.map (·.id)).Nodup
  among : ∀ r ∈ latest, r ∈ seen
  greatest : ∀ s ∈ seen, ∃ r ∈ latest, r.id = s.id ∧ s.version ≤ r.version

theorem mem_addLatest : ∀ {latest : List Record} {r x : Record},
    x ∈ Files.addLatest latest r → x ∈ latest ∨ x = r
  | [], r, x, h => Or.inr (List.mem_singleton.1 h)
  | old :: rest, r, x, h => by
    unfold Files.addLatest at h
    split at h
    · rcases List.mem_cons.1 h with rfl | h
      · split
        · exact Or.inr rfl
        · exact Or.inl List.mem_cons_self
      · exact Or.inl (List.mem_cons_of_mem _ h)
    · rcases List.mem_cons.1 h with rfl | h
      · exact Or.inl List.mem_cons_self
      · rcases mem_addLatest h with h | h
        · exact Or.inl (List.mem_cons_of_mem _ h)
        · exact Or.inr h

/-- The ids after a record was added: its own is at the end if it is new. -/
theorem ids_addLatest : ∀ (latest : List Record) (r : Record),
    (Files.addLatest latest r).map (·.id) =
      if r.id ∈ latest.map (·.id) then latest.map (·.id) else latest.map (·.id) ++ [r.id]
  | [], r => rfl
  | old :: rest, r => by
    unfold Files.addLatest
    by_cases hid : old.id = r.id
    · have hsame : (if old.version < r.version then r else old).id = old.id := by
        split
        · exact hid.symm
        · rfl
      rw [if_pos hid, List.map_cons, List.map_cons, hsame, if_pos (by rw [hid]; exact List.mem_cons_self)]
    · have hne : ¬ r.id = old.id := fun h => hid h.symm
      rw [if_neg hid, List.map_cons, ids_addLatest rest r, List.map_cons]
      by_cases hin : r.id ∈ rest.map (·.id)
      · rw [if_pos hin, if_pos (List.mem_cons_of_mem _ hin)]
      · rw [if_neg hin, if_neg (by rw [List.mem_cons, not_or]; exact ⟨hne, hin⟩)]
        rfl

/-- No record is replaced by one of a lower version, and the new one is there or a later one. -/
theorem addLatest_greatest : ∀ (latest : List Record) (r : Record), ∀ s ∈ r :: latest,
    ∃ x ∈ Files.addLatest latest r, x.id = s.id ∧ s.version ≤ x.version
  | [], r, s, hs => by
    obtain rfl := List.mem_singleton.1 hs
    exact ⟨s, List.mem_singleton.2 rfl, rfl, Int.le_refl _⟩
  | old :: rest, r, s, hs => by
    unfold Files.addLatest
    by_cases hid : old.id = r.id
    · rw [if_pos hid]
      have hhead : s = r ∨ s = old →
          s.id = (if old.version < r.version then r else old).id ∧
            s.version ≤ (if old.version < r.version then r else old).version := by
        rintro (rfl | rfl) <;> split
        · exact ⟨rfl, Int.le_refl _⟩
        · exact ⟨hid.symm, by omega⟩
        · exact ⟨hid, by omega⟩
        · exact ⟨rfl, Int.le_refl _⟩
      rcases List.mem_cons.1 hs with h | hs
      · obtain ⟨hsid, hle⟩ := hhead (Or.inl h)
        exact ⟨_, List.mem_cons_self, hsid.symm, hle⟩
      rcases List.mem_cons.1 hs with h | hs
      · obtain ⟨hsid, hle⟩ := hhead (Or.inr h)
        exact ⟨_, List.mem_cons_self, hsid.symm, hle⟩
      · exact ⟨s, List.mem_cons_of_mem _ hs, rfl, Int.le_refl _⟩
    · rw [if_neg hid]
      have hrest : s ∈ r :: rest → ∃ x ∈ old :: Files.addLatest rest r,
          x.id = s.id ∧ s.version ≤ x.version := by
        intro h
        obtain ⟨x, hx, hxs⟩ := addLatest_greatest rest r s h
        exact ⟨x, List.mem_cons_of_mem _ hx, hxs⟩
      rcases List.mem_cons.1 hs with rfl | hs
      · exact hrest List.mem_cons_self
      rcases List.mem_cons.1 hs with rfl | hs
      · exact ⟨s, List.mem_cons_self, rfl, Int.le_refl _⟩
      · exact hrest (List.mem_cons_of_mem _ hs)

/-- **Adding a record keeps the best of each id.** -/
theorem Best.add {seen latest : List Record} (h : Best seen latest) (r : Record) :
    Best (r :: seen) (Files.addLatest latest r) where
  distinct := by
    rw [ids_addLatest]
    split
    · exact h.distinct
    · rename_i hnew
      rw [List.nodup_append]
      refine ⟨h.distinct, List.nodup_singleton _, ?_⟩
      rintro a ha b hb rfl
      rw [List.mem_singleton.1 hb] at ha
      exact hnew ha
  among := by
    intro x hx
    rcases mem_addLatest hx with hx | rfl
    · exact List.mem_cons_of_mem _ (h.among x hx)
    · exact List.mem_cons_self
  greatest := by
    intro s hs
    rcases List.mem_cons.1 hs with rfl | hs
    · exact addLatest_greatest latest s s List.mem_cons_self
    · obtain ⟨old, hold, hid, hle⟩ := h.greatest s hs
      obtain ⟨x, hx, hxid, hxle⟩ := addLatest_greatest latest r old (List.mem_cons_of_mem _ hold)
      exact ⟨x, hx, hxid.trans hid, Int.le_trans hle hxle⟩

/-- Going through all records keeps the best of each id. -/
theorem Best.foldl : ∀ (rs : List Record) {seen latest : List Record}, Best seen latest →
    Best (rs.reverse ++ seen) (rs.foldl Files.addLatest latest)
  | [], _, _, h => h
  | r :: rs, seen, latest, h => by
    rw [List.reverse_cons, List.append_assoc, List.singleton_append, List.foldl_cons]
    exact Best.foldl rs (h.add r)

theorem Best.nil : Best [] [] :=
  ⟨List.nodup_nil, fun _ hr => absurd hr List.not_mem_nil, fun _ hs => absurd hs List.not_mem_nil⟩

theorem best_foldl (rs : List Record) : Best rs (rs.foldl Files.addLatest []) := by
  have h := Best.foldl rs Best.nil
  rw [List.append_nil] at h
  exact ⟨h.distinct, fun r hr => List.mem_reverse.1 (h.among r hr),
    fun s hs => h.greatest s (List.mem_reverse.2 hs)⟩

/-- The record of an id is the one of the greatest version. -/
theorem Best.le {seen latest : List Record} (h : Best seen latest) {r s : Record}
    (hr : r ∈ latest) (hs : s ∈ seen) (hid : s.id = r.id) : s.version ≤ r.version := by
  obtain ⟨x, hx, hxid, hle⟩ := h.greatest s hs
  obtain rfl := List.inj_on_of_nodup_map h.distinct hx hr (hxid.trans hid)
  exact hle

/-! ### In order of the last change -/

/-- Records stand in order of their last change, the latest first. -/
def NewestFirst (rs : List Record) : Prop :=
  rs.Pairwise fun a b => b.updatedAt.le? a.updatedAt = some true

/-- The instant of a record's last change. -/
def changed (r : Record) : Int := r.updatedAt.instant?.getD 0

/-- Times with offsets are compared as instants. -/
theorem le?_changed {a b : Record} (ha : a.updatedAt.offset.isSome = true)
    (hb : b.updatedAt.offset.isSome = true) :
    b.updatedAt.le? a.updatedAt = some (decide (changed b ≤ changed a)) := by
  obtain ⟨x, hx⟩ := Option.isSome_iff_exists.1 ha
  obtain ⟨y, hy⟩ := Option.isSome_iff_exists.1 hb
  unfold changed Moment.le? Moment.compare? Moment.instant?
  rw [hx, hy]
  simp only [Option.map_some, Option.getD_some, Option.some.injEq]
  rw [Bool.eq_iff_iff, bne_iff_ne, decide_eq_true_eq, ne_eq, compare_gt_iff_gt]
  omega

/-- **Records whose times have offsets are put in order.** -/
theorem newestFirst_mergeSort {rs : List Record}
    (haware : ∀ r ∈ rs, r.updatedAt.offset.isSome = true) :
    NewestFirst (rs.mergeSort fun a b => (b.updatedAt.le? a.updatedAt).getD true) := by
  -- The comparison is total on moments with offsets only, so it is carried over to the instants.
  have hmap := List.map_mergeSort (r := fun a b => (b.updatedAt.le? a.updatedAt).getD true)
    (s := fun x y : Int => decide (y ≤ x)) (f := changed) (l := rs) (by
      intro a ha b hb
      rw [le?_changed (haware a ha) (haware b hb), Option.getD_some])
  have hsorted : ((rs.map changed).mergeSort fun x y : Int => decide (y ≤ x)).Pairwise
      fun x y => y ≤ x := by
    refine (List.pairwise_mergeSort ?_ ?_ _).imp fun h => of_decide_eq_true h
    · intro x y z hxy hyz
      rw [decide_eq_true_eq] at hxy hyz ⊢
      omega
    · intro x y
      rw [Bool.or_eq_true, decide_eq_true_eq, decide_eq_true_eq]
      omega
  rw [← hmap, List.pairwise_map] at hsorted
  refine hsorted.imp_of_mem ?_
  intro a b ha hb hle
  rw [le?_changed (haware a (List.mem_mergeSort.1 ha)) (haware b (List.mem_mergeSort.1 hb)),
    decide_eq_true hle]

/-! ### The list -/

/-- The names of all versions match the pattern of the list. -/
theorem accepts_nameOf (id : String) (v : Int) :
    Glob.accepts "*-v*.json" (File.nameOf id v) = true := by
  have hparse : Glob.parse "*-v*.json" =
      .many :: ("-v".toList.map .exact ++ .many :: ".json".toList.map .exact) := by
    decide
  unfold Glob.accepts
  rw [hparse, nameOf_toList]
  refine Glob.someEnd_eq_true.2 ⟨id.toList, "-v".toList ++ (figures v ++ ".json".toList), rfl, ?_⟩
  exact (Glob.acceptsChars_exact _ _).2 ⟨_, rfl, Glob.acceptsChars_ending.2 ⟨_, rfl⟩⟩

/-- The pattern of the list selects all files of records. -/
theorem select_all {files : Files} (hmade : ∀ f ∈ files, ∃ r, f = File.of r) :
    files.select ["*-v*.json"] [.home] = .ok files := by
  refine congrArg Except.ok (List.filter_eq_self.2 ?_)
  intro f hf
  obtain ⟨r, rfl⟩ := hmade f hf
  rw [Bool.and_eq_true]
  exact ⟨rfl, accepts_nameOf r.id r.version⟩

/-- What is listed of files that can all be read, if the times of the last change have an order. -/
theorem latestRecords_eq {files : Files} {rs : List Record} {now : Moment}
    (hmade : ∀ f ∈ files, ∃ r, f = File.of r)
    (hread : List.Forall₂ (fun f r => f.read now = .ok r) files rs) :
    files.latestRecords now =
      if Files.comparable ((rs.foldl Files.addLatest []).map (·.updatedAt)) then
        .ok ((rs.foldl Files.addLatest []).mergeSort fun a b =>
          (b.updatedAt.le? a.updatedAt).getD true)
      else .error .mismatched := by
  have hrecords : files.mapM (File.read now) = .ok rs := mapM_eq_ok.2 hread
  unfold Files.latestRecords
  rw [select_all hmade]
  show (files.mapM (File.read now) >>= _) = _
  rw [hrecords]
  cases hcomparable : Files.comparable ((rs.foldl Files.addLatest []).map (·.updatedAt)) <;>
    simp only [bind, Except.bind, hcomparable, Bool.not_true, Bool.not_false, Bool.false_eq_true,
      if_false, if_true] <;> rfl

/-- **What is listed** of files that can all be read: of each id the record of the greatest version,
those changed last first. -/
theorem latestRecords_of {rs : List Record} {now : Moment}
    (hread : ∀ r ∈ rs, (File.of r).read now = .ok r)
    (haware : ∀ r ∈ rs, r.updatedAt.offset.isSome = true) :
    ∃ out, Files.latestRecords now (rs.map File.of) = .ok out ∧ Best rs out ∧ NewestFirst out := by
  have hbest := best_foldl rs
  have hlatest : ∀ r ∈ rs.foldl Files.addLatest [], r.updatedAt.offset.isSome = true :=
    fun r hr => haware r (hbest.among r hr)
  have hmade : ∀ f ∈ rs.map File.of, ∃ r, f = File.of r := by
    intro f hf
    obtain ⟨r, -, rfl⟩ := List.mem_map.1 hf
    exact ⟨r, rfl⟩
  have hrecords : List.Forall₂ (fun f r => File.read now f = .ok r) (rs.map File.of) rs := by
    rw [List.forall₂_map_left_iff, List.forall₂_same]
    exact hread
  have hcomparable : Files.comparable ((rs.foldl Files.addLatest []).map (·.updatedAt)) = true := by
    unfold Files.comparable
    rw [Bool.or_eq_true, List.all_eq_true]
    refine Or.inl ?_
    intro m hm
    obtain ⟨r, hr, rfl⟩ := List.mem_map.1 hm
    exact hlatest r hr
  refine ⟨_, (latestRecords_eq hmade hrecords).trans (if_pos hcomparable), ⟨?_, ?_, ?_⟩,
    newestFirst_mergeSort hlatest⟩
  · exact ((List.mergeSort_perm _ _).map _).nodup_iff.2 hbest.distinct
  · exact fun r hr => hbest.among r (List.mem_mergeSort.1 hr)
  · intro s hs
    obtain ⟨r, hr, hrs⟩ := hbest.greatest s hs
    exact ⟨r, List.mem_mergeSort.2 hr, hrs⟩

end Workflow
end Cadence
