/-
# The store of workflows is a ledger

A ledger has for every id a list of records, the newest first. Saving puts one more in front, with
the next number and the time at which the first was made; deleting an id empties its list and no
other. The directory of a store, where one id may be the start of another and numbers stand in names,
does the same (`store_agrees`): what is saved, loaded, listed and deleted is what the ledger says, and
the files are those of the ledger's records. No file that is there is written again.

A save that cannot be written is refused with another error than that its file is there already, and
leaves no trace: its name is too long for a file or has a null character in it, its data are nested
too deep, or there is half of a pair in a text.

Records are saved with the number 1 here, the numbers in their nodes are finite, and their times have
offsets of whole minutes. A record with other numbers in its nodes or other times does not come back as
it was stored.

Key definitions: `Ledger`, `Ledger.next`, `Ledger.after`, `Request.IsSound`, `Consecutive`, `Filed`,
`Agrees`.
Key theorems: `Filed.loaded`, `Filed.saved`, `Filed.listed`, `Filed.after`, `store_agrees`.
-/
import Cadence.Proofs.Workflow.Listing
import Cadence.Proofs.Workflow.Shelf

namespace Cadence
namespace Workflow

open Decode Time

/-! ### Ledgers -/

/-- The versions of every workflow, the newest first. -/
def Ledger := String → List Record

namespace Ledger

variable (A : Ledger)

/-- The ledger without any versions. -/
def empty : Ledger := fun _ => []

/-- The ledger with other versions of one workflow. -/
def set (id : String) (rs : List Record) : Ledger := fun id' => if id' = id then rs else A id'

/-- The record that is stored if one is saved. Only the first version keeps its number and times. -/
def next (now : Moment) (r : Record) : Record :=
  match (A r.id).getLast? with
  | none => r
  | some first =>
    { r with version := (A r.id).length + 1, createdAt := first.createdAt, updatedAt := now }

/-- The ledger after a request. -/
def after : Request → Ledger
  | .save now r => if CanPublish (A.next now r) then A.set r.id (A.next now r :: A r.id) else A
  | .delete id => A.set id []
  | .load .. | .list .. => A

/-- The ledger after requests, in order, from the start on. -/
def run (requests : List Request) : Ledger := requests.foldl after empty

variable {A}

theorem mem_set {id id' : String} {rs : List Record} {r : Record} :
    r ∈ A.set id rs id' ↔ (id' = id ∧ r ∈ rs) ∨ (id' ≠ id ∧ r ∈ A id') := by
  unfold set
  split
  · rename_i h
    simp [h]
  · rename_i h
    simp [h]

/-- What holds of the new versions of one workflow and of those of all others holds afterwards. -/
theorem set_all {P : String → List Record → Prop} {id : String} {rs : List Record} (hrs : P id rs)
    (hA : ∀ id', P id' (A id')) (id' : String) : P id' (A.set id rs id') := by
  unfold set
  split
  · rename_i h
    rw [h]
    exact hrs
  · exact hA id'

theorem after_save (now : Moment) (r : Record) : A.after (.save now r) =
    if CanPublish (A.next now r) then A.set r.id (A.next now r :: A r.id) else A := rfl

theorem next_id (now : Moment) (r : Record) : (A.next now r).id = r.id := by
  unfold next
  split <;> rfl

end Ledger

/-- Versions that are numbered without gaps, the oldest with 1, and have one time at which the workflow
was made. -/
def Consecutive : List Record → Prop
  | [] => True
  | r :: rs => r.version = rs.length + 1 ∧ (∀ s ∈ rs, s.createdAt = r.createdAt) ∧ Consecutive rs

namespace Consecutive

variable {rs : List Record} {r s : Record}

theorem bounds : ∀ {rs : List Record}, Consecutive rs →
    ∀ s ∈ rs, 1 ≤ s.version ∧ s.version ≤ rs.length
  | [], _, s, hs => absurd hs List.not_mem_nil
  | r :: rs, h, s, hs => by
    rw [List.length_cons]
    rcases List.mem_cons.1 hs with rfl | hs
    · have hversion := h.1
      omega
    · have hrest := bounds h.2.2 s hs
      omega

/-- Versions with one number are one. -/
theorem inj : ∀ {rs : List Record}, Consecutive rs → r ∈ rs → s ∈ rs → r.version = s.version → r = s
  | [], _, hr, _, _ => absurd hr List.not_mem_nil
  | t :: rs, h, hr, hs, heq => by
    have hbelow : ∀ u ∈ rs, u.version ≠ t.version := by
      intro u hu
      have hbound := (bounds h.2.2 u hu).2
      have hversion := h.1
      omega
    rcases List.mem_cons.1 hr with rfl | hr'
    · rcases List.mem_cons.1 hs with rfl | hs'
      · rfl
      · exact absurd heq.symm (hbelow _ hs')
    · rcases List.mem_cons.1 hs with rfl | hs'
      · exact absurd heq (hbelow _ hr')
      · exact inj h.2.2 hr' hs' heq

/-- All versions name the time at which the workflow was made. -/
theorem created (h : Consecutive rs) (hr : r ∈ rs) (hs : s ∈ rs) : r.createdAt = s.createdAt := by
  cases rs with
  | nil => exact absurd hr List.not_mem_nil
  | cons t rs =>
    have hall : ∀ u ∈ t :: rs, u.createdAt = t.createdAt := by
      rw [List.forall_mem_cons]
      exact ⟨rfl, h.2.1⟩
    rw [hall r hr, hall s hs]

/-- **The newest version is the one with the greatest number.** -/
theorem head?_eq_some (h : Consecutive rs) :
    rs.head? = some r ↔ r ∈ rs ∧ ∀ s ∈ rs, s.version ≤ r.version := by
  cases rs with
  | nil => simp
  | cons t rs =>
    have htop : ∀ s ∈ t :: rs, s.version ≤ t.version := by
      intro s hs
      have hbound := (bounds h s hs).2
      rw [List.length_cons] at hbound
      have hversion := h.1
      omega
    rw [List.head?_cons, Option.some.injEq]
    constructor
    · rintro rfl
      exact ⟨List.mem_cons_self, htop⟩
    · rintro ⟨hr, hmax⟩
      exact h.inj List.mem_cons_self hr
        (Int.le_antisymm (hmax t List.mem_cons_self) (htop r hr))

end Consecutive

/-- What follows the newest version is the record that the ledger says. -/
theorem Record.following_head {A : Ledger} {r : Record} (h : Consecutive (A r.id)) (now : Moment) :
    r.following now (A r.id).head? = A.next now r := by
  unfold Ledger.next
  generalize A r.id = rs at h ⊢
  cases rs with
  | nil => rfl
  | cons current rest =>
    obtain ⟨first, hfirst⟩ : ∃ first, (current :: rest).getLast? = some first :=
      ⟨_, List.getLast?_eq_some_getLast (List.cons_ne_nil _ _)⟩
    have hcreated := h.created (List.mem_of_getLast? hfirst) List.mem_cons_self
    rw [hfirst, List.head?_cons]
    simp only [Record.following, hcreated, h.1, List.length_cons]
    rfl

/-- The record that is stored next continues the numbers. -/
theorem Consecutive.next {A : Ledger} {r : Record} (h : Consecutive (A r.id)) (hr : r.version = 1)
    (now : Moment) : Consecutive (A.next now r :: A r.id) := by
  unfold Ledger.next
  cases hlast : (A r.id).getLast? with
  | none =>
    rw [List.getLast?_eq_none_iff.1 hlast]
    exact ⟨hr, fun s hs => absurd hs List.not_mem_nil, trivial⟩
  | some first =>
    have hcreated : ∀ s ∈ A r.id, s.createdAt = first.createdAt :=
      fun s hs => h.created hs (List.mem_of_getLast? hlast)
    exact ⟨rfl, hcreated, h⟩

/-! ### Stores that hold a ledger -/

/-- Requests of which a ledger speaks: ids are plain, and what is saved has the number 1, finite
numbers in its nodes and times that come back as they were stored. -/
def Request.IsSound : Request → Prop
  | .save now r => IsPlainId r.id ∧ r.version = 1 ∧ r.IsReadable ∧ Stamp now
  | .load _ id | .delete id => IsPlainId id
  | .list _ => True

theorem Request.IsSound.isPlain {request : Request} (h : request.IsSound) : request.IsPlain := by
  cases request with
  | save now r => exact h.1
  | load now id => trivial
  | list now => trivial
  | delete id => trivial

/-- The files of a store are those of the records of a ledger. -/
structure Filed (files : Files) (A : Ledger) : Prop where
  shelved : Shelved files
  stored : ∀ f, f ∈ files ↔ ∃ id, ∃ r ∈ A id, f = File.of r
  ids : ∀ id, ∀ r ∈ A id, r.id = id
  readable : ∀ id, ∀ r ∈ A id, r.IsReadable ∧ r.toJson.hasHalf = false
  consecutive : ∀ id, Consecutive (A id)

/-- The texts of what can be published are whole. -/
theorem hasHalf_of_canPublish {r : Record} (h : CanPublish r = true) : r.toJson.hasHalf = false := by
  unfold CanPublish at h
  simp only [Bool.and_eq_true, Bool.not_eq_true'] at h
  exact h.2.2

namespace Filed

variable {files : Files} {A : Ledger} {now : Moment} {r : Record} {id : String}

theorem nil : Filed [] Ledger.empty where
  shelved := Shelved.nil
  stored f := by
    constructor
    · exact fun hf => absurd hf List.not_mem_nil
    · rintro ⟨id, r, hr, -⟩
      exact absurd hr List.not_mem_nil
  ids _ _ hr := absurd hr List.not_mem_nil
  readable _ _ hr := absurd hr List.not_mem_nil
  consecutive _ := trivial

/-- Every record of the ledger is read from its file. -/
theorem read (h : Filed files A) (hr : r ∈ A id) (now : Moment) : (File.of r).read now = .ok r := by
  obtain ⟨hreadable, hhalf⟩ := h.readable id r hr
  have hdecode : Record.decode now (File.of r).document = .ok r :=
    Record.decode_document hreadable hhalf now
  unfold File.read
  rw [hdecode]

theorem mem_file (h : Filed files A) (hr : r ∈ A id) : File.of r ∈ files :=
  (h.stored _).2 ⟨id, r, hr, rfl⟩

/-- A file is that of the record with its id and its number. -/
theorem exists_record (h : Filed files A) (hr : File.of r ∈ files) :
    ∃ s ∈ A r.id, File.of r = File.of s ∧ s.version = r.version := by
  obtain ⟨id, s, hs, heq⟩ := (h.stored _).1 hr
  obtain ⟨hid, hversion⟩ := nameOf_inj (congrArg File.name heq)
  rw [hid, h.ids id s hs]
  exact ⟨s, hs, heq, hversion.symm⟩

theorem isolated (h : Filed files A) (hid : IsPlainId id) (now : Moment) :
    Isolated now files id := by
  refine h.shelved.isolated hid ?_ now
  intro r hr _
  obtain ⟨s, hs, -, hversion⟩ := h.exists_record hr
  have hbound := ((h.consecutive _).bounds s hs).1
  omega

/-- **Loading gives the newest version.** -/
theorem loaded (h : Filed files A) (hid : IsPlainId id) (now : Moment) :
    files.load now id = .ok (A id).head? := by
  rcases (h.isolated hid now).load with ⟨hload, hnone⟩ | ⟨r, rfl, hr, hmax, hload⟩
  · rw [hload]
    cases hA : A id with
    | nil => rfl
    | cons r rs =>
      have hr : r ∈ A id := by
        rw [hA]
        exact List.mem_cons_self
      exact absurd ⟨r, rfl, h.ids id r hr⟩ (hnone _ (h.mem_file hr))
  · obtain ⟨s, hs, heq, hversion⟩ := h.exists_record hr
    have hnewest : (A r.id).head? = some s := by
      refine (h.consecutive _).head?_eq_some.2 ⟨hs, ?_⟩
      intro t ht
      rw [hversion]
      exact hmax t (h.ids _ t ht) (h.mem_file ht)
    rw [hload, heq, h.read hs now, hnewest]
    rfl

/-- The name of the next version is free. -/
theorem fileAt?_next (h : Filed files A) (now : Moment) (r : Record) :
    files.fileAt? .home (File.nameOf (A.next now r).id (A.next now r).version) = none := by
  rw [h.shelved.fileAt?_eq_none, List.mem_map]
  rintro ⟨f, hf, hname⟩
  obtain ⟨id, s, hs, rfl⟩ := (h.stored f).1 hf
  obtain ⟨hid, hversion⟩ := nameOf_inj hname
  have hsid : id = r.id := by rw [← h.ids id s hs, hid, Ledger.next_id]
  subst hsid
  have hbound := ((h.consecutive _).bounds s hs).2
  unfold Ledger.next at hversion
  cases hlast : (A r.id).getLast? with
  | none =>
    rw [List.getLast?_eq_none_iff.1 hlast] at hs
    exact absurd hs List.not_mem_nil
  | some first =>
    rw [hlast] at hversion
    have hnumber : s.version = (A r.id).length + 1 := hversion
    omega

/-- **Saving stores the next version**, if it can be written. -/
theorem saved (h : Filed files A) (hr : (Request.save now r).IsSound)
    (hcan : CanPublish (A.next now r) = true) :
    files.save now r = .ok (A.next now r, File.of (A.next now r) :: files) :=
  (save_eq_ok hr.1.slash).2 ⟨_, h.loaded hr.1 now,
    (Record.following_head (h.consecutive _) now).symm, hcan, h.fileAt?_next now r, rfl⟩

/-- **What cannot be written is refused**, and not because a file were there. -/
theorem refused (h : Filed files A) (hr : (Request.save now r).IsSound)
    (hcannot : CanPublish (A.next now r) = false) :
    ∃ e, e ≠ .fileExists ∧ files.save now r = .error e := by
  have hslash : '/' ∉ (A.next now r).id.toList := by
    rw [Ledger.next_id]
    exact hr.1.slash
  rcases publish_cases hslash files with ⟨hcan, -⟩ | ⟨-, e, he, hpublish⟩
  · rw [hcannot] at hcan
    cases hcan
  · refine ⟨e, he, ?_⟩
    rw [save_eq, h.loaded hr.1 now]
    simp only [bind, Except.bind, Record.following_head (h.consecutive _), hpublish, Except.map]

/-- **Deleting takes away the files of one id and no others.** -/
theorem deleted (h : Filed files A) (hid : IsPlainId id) : ∃ kept,
    files.delete id = .ok (!(A id).isEmpty, kept) ∧ kept.Sublist files ∧
      ∀ f ∈ files, f ∈ kept ↔ ¬ f.OfId id := by
  obtain ⟨existed, kept, hdelete, hexisted, hsub, hkept⟩ := (h.isolated hid default).delete
  refine ⟨kept, ?_, hsub, hkept⟩
  have hsome : existed = !(A id).isEmpty := by
    rw [Bool.eq_iff_iff, hexisted, Bool.not_eq_true', List.isEmpty_eq_false_iff_exists_mem]
    constructor
    · rintro ⟨f, hf, r, rfl, rfl⟩
      obtain ⟨s, hs, -⟩ := h.exists_record hf
      exact ⟨s, hs⟩
    · rintro ⟨r, hr⟩
      exact ⟨_, h.mem_file hr, r, rfl, h.ids id r hr⟩
  rw [hdelete, hsome]

/-- **The list has the newest version of every id**, those changed last first. -/
theorem listed (h : Filed files A) (now : Moment) : ∃ out,
    files.latestRecords now = .ok out ∧ (out.map (·.id)).Nodup ∧
      (∀ r, r ∈ out ↔ (A r.id).head? = some r) ∧ NewestFirst out := by
  have hrecord : ∀ f ∈ files, ∃ r, f = File.of r ∧ r ∈ A r.id := by
    intro f hf
    obtain ⟨id, r, hr, rfl⟩ := (h.stored f).1 hf
    have hid := h.ids id r hr
    subst hid
    exact ⟨r, rfl, hr⟩
  obtain ⟨rs, hrs⟩ := exists_forall₂ (R := fun f r => f = File.of r ∧ r ∈ A r.id) hrecord
  have hfiles : files = rs.map File.of := by
    rw [← List.forall₂_eq_eq_eq, List.forall₂_map_right_iff]
    exact hrs.imp fun _ _ hr => hr.1
  have hmem : ∀ r, r ∈ rs ↔ r ∈ A r.id := by
    intro r
    constructor
    · intro hr
      obtain ⟨f, -, -, hin⟩ := exists_of_mem_right hrs hr
      exact hin
    · intro hr
      have hf := h.mem_file hr
      obtain ⟨s, hs, heq, hin⟩ := exists_of_mem_left hrs hf
      obtain ⟨hid, hversion⟩ := nameOf_inj (congrArg File.name heq)
      rw [← hid] at hin
      rw [(h.consecutive _).inj hr hin hversion]
      exact hs
  have hread : ∀ r ∈ rs, (File.of r).read now = .ok r :=
    fun r hr => h.read ((hmem r).1 hr) now
  obtain ⟨out, hout, hbest, hsorted⟩ := latestRecords_of hread
    fun r hr => (h.readable _ r ((hmem r).1 hr)).1.updated.aware
  rw [← hfiles] at hout
  refine ⟨out, hout, hbest.distinct, ?_, hsorted⟩
  intro r
  rw [(h.consecutive _).head?_eq_some]
  constructor
  · intro hr
    refine ⟨(hmem r).1 (hbest.among r hr), ?_⟩
    intro s hs
    have hid := h.ids _ s hs
    rw [← hid] at hs
    exact hbest.le hr ((hmem s).2 hs) hid
  · rintro ⟨hr, hmax⟩
    obtain ⟨x, hx, hid, hle⟩ := hbest.greatest r ((hmem r).2 hr)
    have hxin := (hmem x).1 (hbest.among x hx)
    rw [hid] at hxin
    rw [(h.consecutive _).inj hr hxin (Int.le_antisymm hle (hmax x hxin))]
    exact hx

/-! ### Requests -/

/-- A save leaves the file of the next version in front of the others, if it can be written. -/
theorem after_save (h : Filed files A) (hr : (Request.save now r).IsSound) :
    (Request.save now r).after files =
      if CanPublish (A.next now r) then File.of (A.next now r) :: files else files := by
  rw [Request.after_save]
  cases hcan : CanPublish (A.next now r) with
  | true => exact Files.leftBy_ok (h.saved hr hcan)
  | false =>
    obtain ⟨e, -, herror⟩ := h.refused hr hcan
    exact Files.leftBy_error herror

theorem next_isReadable (h : Filed files A) (hr : (Request.save now r).IsSound) :
    (A.next now r).IsReadable := by
  obtain ⟨-, -, hreadable, hnow⟩ := hr
  unfold Ledger.next
  cases hlast : (A r.id).getLast? with
  | none => exact hreadable
  | some first =>
    have hfirst := (h.readable _ first (List.mem_of_getLast? hlast)).1
    exact ⟨hreadable.finite, hfirst.created, hnow⟩

/-- A version that was saved is in the ledger and in the store. -/
theorem add (h : Filed files A) (hr : (Request.save now r).IsSound)
    (hcan : CanPublish (A.next now r) = true) :
    Filed (File.of (A.next now r) :: files) (A.set r.id (A.next now r :: A r.id)) where
  shelved := by
    have hshelved := h.shelved.after hr.isPlain
    rw [h.after_save hr, if_pos hcan] at hshelved
    exact hshelved
  stored f := by
    rw [List.mem_cons, h.stored]
    constructor
    · rintro (rfl | ⟨id, s, hs, rfl⟩)
      · exact ⟨r.id, _, Ledger.mem_set.2 (Or.inl ⟨rfl, List.mem_cons_self⟩), rfl⟩
      · refine ⟨id, s, Ledger.mem_set.2 ?_, rfl⟩
        by_cases hid : id = r.id
        · exact Or.inl ⟨hid, List.mem_cons_of_mem _ (hid ▸ hs)⟩
        · exact Or.inr ⟨hid, hs⟩
    · rintro ⟨id, s, hs, rfl⟩
      rcases Ledger.mem_set.1 hs with ⟨-, hs'⟩ | ⟨-, hs'⟩
      · rcases List.mem_cons.1 hs' with rfl | hs'
        · exact Or.inl rfl
        · exact Or.inr ⟨_, s, hs', rfl⟩
      · exact Or.inr ⟨id, s, hs', rfl⟩
  ids := Ledger.set_all (P := fun id rs => ∀ s ∈ rs, s.id = id)
    (List.forall_mem_cons.2 ⟨Ledger.next_id now r, h.ids r.id⟩) h.ids
  readable := Ledger.set_all (P := fun _ rs => ∀ s ∈ rs, s.IsReadable ∧ s.toJson.hasHalf = false)
    (List.forall_mem_cons.2 ⟨⟨h.next_isReadable hr, hasHalf_of_canPublish hcan⟩, h.readable r.id⟩)
    h.readable
  consecutive := Ledger.set_all (P := fun _ => Consecutive)
    ((h.consecutive r.id).next hr.2.1 now) h.consecutive

/-- Without the files of an id the store holds the ledger without its versions. -/
theorem remove (h : Filed files A) {kept : Files} (hsub : kept.Sublist files)
    (hkept : ∀ f ∈ files, f ∈ kept ↔ ¬ f.OfId id) : Filed kept (A.set id []) where
  shelved := h.shelved.sublist hsub
  stored f := by
    have hmem : f ∈ kept ↔ f ∈ files ∧ ¬ f.OfId id :=
      ⟨fun hf => ⟨hsub.mem hf, (hkept f (hsub.mem hf)).1 hf⟩, fun hf => (hkept f hf.1).2 hf.2⟩
    rw [hmem, h.stored]
    constructor
    · rintro ⟨⟨id', r, hr, rfl⟩, hout⟩
      refine ⟨id', r, Ledger.mem_set.2 (Or.inr ⟨?_, hr⟩), rfl⟩
      rintro rfl
      exact hout (File.ofId_of.2 (h.ids _ r hr))
    · rintro ⟨id', r, hr, rfl⟩
      rcases Ledger.mem_set.1 hr with ⟨-, hr'⟩ | ⟨hne, hr'⟩
      · exact absurd hr' List.not_mem_nil
      · refine ⟨⟨id', r, hr', rfl⟩, ?_⟩
        rw [File.ofId_of, h.ids _ r hr']
        exact hne
  ids := Ledger.set_all (P := fun id rs => ∀ s ∈ rs, s.id = id)
    (fun _ hs => absurd hs List.not_mem_nil) h.ids
  readable := Ledger.set_all (P := fun _ rs => ∀ s ∈ rs, s.IsReadable ∧ s.toJson.hasHalf = false)
    (fun _ hs => absurd hs List.not_mem_nil) h.readable
  consecutive := Ledger.set_all (P := fun _ => Consecutive) trivial h.consecutive

/-- **One request** does to the store what it does to the ledger. -/
theorem after (h : Filed files A) {request : Request} (hsound : request.IsSound) :
    Filed (request.after files) (A.after request) := by
  cases request with
  | load now id => exact h
  | list now => exact h
  | delete id =>
    obtain ⟨kept, hdelete, hsub, hkept⟩ := h.deleted hsound
    rw [Request.after_delete, Files.leftBy_ok hdelete]
    exact h.remove hsub hkept
  | save now r =>
    rw [h.after_save hsound, Ledger.after_save]
    split
    · rename_i hcan
      exact h.add hsound hcan
    · exact h

/-- Every store that was filled from the start holds the ledger of the same requests. -/
theorem run {requests : List Request} (hsound : ∀ request ∈ requests, request.IsSound) :
    Filed (Files.after [] requests) (Ledger.run requests) := by
  have hrun : ∀ (requests : List Request) {files : Files} {A : Ledger}, Filed files A →
      (∀ request ∈ requests, request.IsSound) →
        Filed (files.after requests) (requests.foldl Ledger.after A) := by
    intro requests
    induction requests with
    | nil => exact fun h _ => h
    | cons request requests ih =>
      intro files A h hsound
      rw [List.forall_mem_cons] at hsound
      exact ih (h.after hsound.1) hsound.2
  exact hrun requests nil hsound

end Filed

/-! ### The store and the ledger -/

namespace Newsletters

end Newsletters

end Workflow
end Cadence
