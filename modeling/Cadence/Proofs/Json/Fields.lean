/-
# Members after a change

Setting members leaves the other members as they are, so what all members with a key are like is
kept by `insert` and `merge` if the new ones are like that too (`denies_merge`). The first member
keeps its place and its key (`merge_cons`). A member of an object, whose keys differ, is there under
its key after a merge (`getD_merge`).

Key definitions: `Json.Fields.Denies`.
Key theorems: `denies_merge`, `merge_cons`, `getD_merge`.
-/
import Cadence.Json.Basic
import Mathlib.Tactic.Common

namespace Cadence
namespace Json
namespace Fields

/-- No member with a key counts as given. -/
def Denies (f : Fields) (key : String) : Prop := ∀ m ∈ f, m.1 = key → m.2.isTruthy = false

theorem Denies.getD {f : Fields} {key : String} (h : f.Denies key) :
    (getD f key).isTruthy = false := by
  unfold Fields.getD get?
  cases hf : f.find? (·.1 = key) with
  | none => rfl
  | some m =>
    have hk := List.find?_some hf
    exact h m (List.mem_of_find?_eq_some hf) (by simpa using hk)

/-- A member after an insertion was there before or is the inserted one. -/
theorem mem_insert : ∀ {f : Fields} {key : String} {value : Json} {m : String × Json},
    m ∈ f.insert key value → m ∈ f ∨ m = (key, value)
  | [], key, value, m, h => by
    rw [insert, List.mem_singleton] at h
    exact Or.inr h
  | (k, v) :: rest, key, value, m, h => by
    unfold insert at h
    split at h
    · rename_i heq
      rcases List.mem_cons.1 h with rfl | h
      · exact Or.inr (by rw [heq])
      · exact Or.inl (List.mem_cons_of_mem _ h)
    · rcases List.mem_cons.1 h with rfl | h
      · exact Or.inl List.mem_cons_self
      · rcases mem_insert h with h | h
        · exact Or.inl (List.mem_cons_of_mem _ h)
        · exact Or.inr h

theorem mem_merge : ∀ {more f : Fields} {m : String × Json}, m ∈ f.merge more → m ∈ f ∨ m ∈ more
  | [], f, m, h => Or.inl h
  | x :: more, f, m, h => by
    have h' : m ∈ (f.insert x.1 x.2).merge more := h
    rcases mem_merge h' with h | h
    · rcases mem_insert h with h | h
      · exact Or.inl h
      · exact Or.inr (h ▸ List.mem_cons_self)
    · exact Or.inr (List.mem_cons_of_mem _ h)

theorem denies_merge {f more : Fields} {key : String} (hf : f.Denies key) (hm : more.Denies key) :
    (f.merge more).Denies key := by
  intro m h hkey
  rcases mem_merge h with h | h
  · exact hf m h hkey
  · exact hm m h hkey

/-- The first member keeps its place and its key, whatever is set. -/
theorem merge_cons : ∀ (more : Fields) (k : String) (v : Json) (f : Fields),
    ∃ v' f', merge ((k, v) :: f) more = (k, v') :: f'
  | [], k, v, f => ⟨v, f, rfl⟩
  | x :: more, k, v, f => by
    have h : merge ((k, v) :: f) (x :: more) = merge (insert ((k, v) :: f) x.1 x.2) more := rfl
    rw [h, insert]
    split
    · exact merge_cons more k x.2 f
    · exact merge_cons more k v (insert f x.1 x.2)

/-- Where a key is not denied, a member with this key counts as given. -/
theorem exists_of_not_denies {f : Fields} {key : String} (h : ¬ f.Denies key) :
    ∃ value, (key, value) ∈ f ∧ value.isTruthy = true := by
  unfold Denies at h
  push Not at h
  obtain ⟨⟨k, value⟩, hm, rfl, hgiven⟩ := h
  exact ⟨value, hm, by simpa using hgiven⟩

theorem getD_cons (k : String) (v : Json) (f : Fields) (key : String) :
    getD ((k, v) :: f) key = if k = key then v else getD f key := by
  unfold getD get?
  rw [List.find?_cons]
  by_cases h : k = key <;> simp [h]

/-- A member that is set has its value, and the others have theirs. -/
theorem getD_insert : ∀ (f : Fields) (k : String) (v : Json) (key : String),
    getD (f.insert k v) key = if k = key then v else getD f key
  | [], k, v, key => by rw [insert, getD_cons]
  | (k', v') :: f, k, v, key => by
    unfold insert
    by_cases hk : k' = k
    · rw [if_pos hk, getD_cons, getD_cons, ← hk]
      split <;> rfl
    · rw [if_neg hk, getD_cons, getD_cons, getD_insert f k v key]
      by_cases h' : k' = key
      · rw [if_pos h', if_pos h', if_neg fun h => hk (h'.trans h.symm)]
      · rw [if_neg h', if_neg h']

/-- What a merge leaves under a key depends on the new members, and on what was under the key. -/
theorem getD_merge_congr : ∀ {more f g : Fields} {key : String}, getD f key = getD g key →
    getD (f.merge more) key = getD (g.merge more) key
  | [], _, _, _, h => h
  | x :: more, f, g, key, h => by
    have hinsert : getD (f.insert x.1 x.2) key = getD (g.insert x.1 x.2) key := by
      rw [getD_insert, getD_insert, h]
    exact getD_merge_congr (f := f.insert x.1 x.2) (g := g.insert x.1 x.2) hinsert

/-- What is not among the new members stays. -/
theorem getD_merge_of_not_mem : ∀ {more f : Fields} {key : String}, key ∉ more.map (·.1) →
    getD (f.merge more) key = getD f key
  | [], f, key, _ => rfl
  | x :: more, f, key, hkey => by
    rw [List.map_cons, List.mem_cons, not_or] at hkey
    have h : f.merge (x :: more) = (f.insert x.1 x.2).merge more := rfl
    rw [h, getD_merge_of_not_mem hkey.2, getD_insert, if_neg (Ne.symm hkey.1)]

/-- A new member is there after the merge, if no other one has its key. -/
theorem getD_merge : ∀ {more f : Fields} {key : String} {value : Json},
    (more.map (·.1)).Nodup → (key, value) ∈ more → getD (f.merge more) key = value
  | x :: more, f, key, value, hkeys, hm => by
    rw [List.map_cons, List.nodup_cons] at hkeys
    have h : f.merge (x :: more) = (f.insert x.1 x.2).merge more := rfl
    rw [h]
    rcases List.mem_cons.1 hm with rfl | hm
    · rw [getD_merge_of_not_mem hkeys.1, getD_insert, if_pos rfl]
    · exact getD_merge hkeys.2 hm

end Fields
end Json
end Cadence
