/-
# Workflows do not get into each other's way

A store that was filled by saving records with plain ids holds their files and no others, each under
a name of its own (`Shelved`). In such a store an id is isolated if loading finds the greatest of its
own versions, or nothing where it has none, and deleting takes away its own versions and leaves all
others. This is so for every plain id, also where one id is the start of another
(`Shelved.isolated`).

An id that is asked for goes into a pattern as it is. With stars, question marks or brackets in it, it
is isolated exactly if it happens to match no file of another id (`Shelved.isolated_iff`); with as
many question marks as another id has characters, it loads and deletes that one.

Only a version with a negative number escapes its own id: it is never found again.

Key definitions: `Request`, `Files.after`, `File.OfId`, `Shelved`, `Isolated`.
Key theorems: `save_eq_ok`, `Files.latest_cases`, `Shelved.after`, `Shelved.isolated_iff`,
`isolated_after`.
-/
import Cadence.Proofs.Workflow.Readable
import Cadence.Proofs.Workflow.Versions
import Mathlib.Data.List.Nodup

namespace Cadence
namespace Workflow

open Decode Time

/-! ### What is asked of a store -/

/-- What can be asked of a store. -/
inductive Request where
  | save (now : Moment) (r : Record)
  | load (now : Moment) (id : String)
  | list (now : Moment)
  | delete (id : String)
  deriving Repr, DecidableEq, Inhabited

/-- The files that are left by what may fail: where it does, nothing is changed. -/
def Files.leftBy {α : Type} (files : Files) : Except Fault (α × Files) → Files
  | .ok p => p.2
  | .error _ => files

theorem Files.leftBy_ok {α : Type} {files files' : Files} {x : Except Fault (α × Files)} {a : α}
    (h : x = .ok (a, files')) : files.leftBy x = files' := by
  rw [h]
  rfl

theorem Files.leftBy_error {α : Type} {files : Files} {x : Except Fault (α × Files)} {e : Fault}
    (h : x = .error e) : files.leftBy x = files := by
  rw [h]
  rfl

/-- The files after a request. Reading changes nothing. -/
def Request.after : Request → Files → Files
  | .save now r, files => files.leftBy (files.save now r)
  | .delete id, files => files.leftBy (files.delete id)
  | .load .., files | .list .., files => files

theorem Request.after_save (now : Moment) (r : Record) (files : Files) :
    (Request.save now r).after files = files.leftBy (files.save now r) := rfl

theorem Request.after_delete (id : String) (files : Files) :
    (Request.delete id).after files = files.leftBy (files.delete id) := rfl

/-- The files after requests, in order. -/
def Files.after (files : Files) (requests : List Request) : Files :=
  requests.foldl (fun files request => request.after files) files

/-- What every request of a kind keeps, requests of that kind keep. By recursion on the requests. -/
theorem Files.after_induction {I : Files → Prop} {P : Request → Prop}
    (hstep : ∀ (files : Files) (request : Request), I files → P request → I (request.after files)) :
    ∀ {requests : List Request} {files : Files}, I files → (∀ request ∈ requests, P request) →
      I (files.after requests)
  | [], _, h, _ => h
  | request :: requests, files, h, hall => by
    rw [List.forall_mem_cons] at hall
    show I ((request.after files).after requests)
    exact Files.after_induction hstep (hstep files request h hall.1) hall.2

/-- What is saved has a plain id. -/
def Request.IsPlain : Request → Prop
  | .save _ r => IsPlainId r.id
  | .load .. | .list .. | .delete _ => True

/-- The record that is saved: after another version it takes the number behind it and the time at
which the workflow was made. -/
def Record.following (now : Moment) (r : Record) : Option Record → Record
  | none => r
  | some current =>
    { r with version := current.version + 1, createdAt := current.createdAt, updatedAt := now }

theorem Record.following_id (now : Moment) (r : Record) (o : Option Record) :
    (r.following now o).id = r.id := by
  cases o <;> rfl

/-- Saving looks at the latest version first and then publishes the next. -/
theorem save_eq (now : Moment) (files : Files) (r : Record) :
    files.save now r = files.load now r.id >>= fun o =>
      (files.publish (r.following now o)).map fun p => (r.following now o, p.2) := by
  have hpublish : ∀ (x : Except Fault (String × Files)) (r : Record),
      (x >>= fun p => pure (r, p.2)) = x.map fun p => (r, p.2) := by
    intro x r
    cases x <;> rfl
  unfold Files.save
  rw [← funext fun o => hpublish (files.publish (r.following now o)) (r.following now o)]
  cases files.load now r.id with
  | error e => simp only [bind, Except.bind]
  | ok o =>
    cases o <;> simp only [Record.following, bind, Except.bind, pure, Except.pure]

/-- **What a save that ended well did**: it put the file of the record that follows the latest version
next to the others, under a name that was free. -/
theorem save_eq_ok {now : Moment} {files files' : Files} {r r' : Record} (hid : '/' ∉ r.id.toList) :
    files.save now r = .ok (r', files') ↔ ∃ o, files.load now r.id = .ok o ∧
      r' = r.following now o ∧ CanPublish r' = true ∧
      files.fileAt? .home (File.nameOf r'.id r'.version) = none ∧ files' = File.of r' :: files := by
  have hcases := fun o => publish_cases (r := r.following now o)
    (by rw [r.following_id]; exact hid) files
  rw [save_eq, bind_eq_ok]
  constructor
  · rintro ⟨o, hload, hsave⟩
    obtain ⟨⟨name, files'⟩, hpublish, heq⟩ := map_eq_ok.1 hsave
    cases heq
    rcases hcases o with ⟨hcan, hnew⟩ | ⟨-, e, -, herror⟩
    · rw [hnew] at hpublish
      split at hpublish
      · cases hpublish
      · rename_i hfree
        cases hpublish
        exact ⟨o, hload, rfl, hcan, by simpa using hfree, rfl⟩
    · rw [herror] at hpublish
      cases hpublish
  · rintro ⟨o, hload, rfl, hcan, hfree, rfl⟩
    refine ⟨o, hload, ?_⟩
    rcases hcases o with ⟨-, hnew⟩ | ⟨hcannot, -⟩
    · rw [hnew, hfree]
      rfl
    · rw [hcan] at hcannot
      cases hcannot

/-- **What a save leaves**: the files as they were, or the file of the record that follows the latest
version next to them. -/
theorem Request.after_save_cases (now : Moment) {r : Record} (hid : '/' ∉ r.id.toList)
    (files : Files) :
    (Request.save now r).after files = files ∨ ∃ o, files.load now r.id = .ok o ∧
      CanPublish (r.following now o) = true ∧
      files.fileAt? .home (File.nameOf r.id (r.following now o).version) = none ∧
      (Request.save now r).after files = File.of (r.following now o) :: files := by
  rw [after_save]
  cases hsave : files.save now r with
  | error e => exact Or.inl rfl
  | ok p =>
    obtain ⟨o, hload, hr, hcan, hfree, hfiles⟩ := (save_eq_ok hid).1 hsave
    rw [hr] at hcan hfree hfiles
    rw [r.following_id] at hfree
    exact Or.inr ⟨o, hload, hcan, hfree, hfiles⟩

/-- What a deletion leaves is among the files, in their order. -/
theorem Request.after_delete_sublist (id : String) (files : Files) :
    ((Request.delete id).after files).Sublist files := by
  rw [after_delete]
  cases hdelete : files.delete id with
  | error e => exact List.Sublist.refl files
  | ok p =>
    obtain ⟨found, -, heq⟩ := bind_eq_ok.1 hdelete
    cases heq
    exact List.filter_sublist

/-! ### The latest version -/

namespace Files

/-- The later of several numbered files is one of them, and no number is greater than its. -/
theorem foldl_later : ∀ (l : List (Int × File)) (best : Int × File),
    ∃ p ∈ best :: l, l.foldl later (some best) = some p ∧ ∀ q ∈ best :: l, q.1 ≤ p.1
  | [], best => ⟨best, List.mem_cons_self, rfl, by simp⟩
  | f :: l, best => by
    rw [List.foldl_cons]
    by_cases hless : f.1 < best.1
    · rw [show later (some best) f = some best from if_pos hless]
      obtain ⟨p, hp, hfold, hmax⟩ := foldl_later l best
      rw [List.forall_mem_cons] at hmax
      refine ⟨p, ?_, hfold, ?_⟩
      · rcases List.mem_cons.1 hp with rfl | hp
        · exact List.mem_cons_self
        · exact List.mem_cons_of_mem _ (List.mem_cons_of_mem _ hp)
      · rw [List.forall_mem_cons, List.forall_mem_cons]
        exact ⟨hmax.1, by omega, hmax.2⟩
    · rw [show later (some best) f = some f from if_neg hless]
      obtain ⟨p, hp, hfold, hmax⟩ := foldl_later l f
      rw [List.forall_mem_cons] at hmax
      refine ⟨p, List.mem_cons_of_mem _ hp, hfold, ?_⟩
      rw [List.forall_mem_cons, List.forall_mem_cons]
      exact ⟨by omega, hmax.1, hmax.2⟩

/-- A pair is a file and its number. -/
def IsNumbered (f : File) (p : Int × File) : Prop := p.2 = f ∧ f.number = .ok p.1

theorem IsNumbered.version {r : Record} {p : Int × File} (h : IsNumbered (File.of r) p) :
    p.1 = r.version := by
  have hnumber := h.2
  rw [number_of] at hnumber
  exact (Except.ok.inj hnumber).symm

/-- **The latest of the files of records is that of a record with the greatest version.** -/
theorem latest_cases {files found : Files} {q : String} (hfound : files.versions q = .ok found)
    (hmade : ∀ f ∈ found, ∃ r, f = File.of r) :
    (found = [] ∧ files.latest q = .ok none) ∨ ∃ r, File.of r ∈ found ∧
      files.latest q = .ok (some (File.of r)) ∧
      ∀ s, File.of s ∈ found → s.version ≤ r.version := by
  have hone : ∀ f ∈ found, ∃ p, IsNumbered f p := by
    intro f hf
    obtain ⟨r, rfl⟩ := hmade f hf
    exact ⟨(r.version, File.of r), rfl, number_of r⟩
  obtain ⟨l, hl⟩ := exists_forall₂ hone
  have hnumbered : found.mapM (fun f => do return (← f.number, f)) = .ok l := by
    refine mapM_eq_ok.2 (hl.imp ?_)
    rintro f ⟨n, g⟩ ⟨rfl, hn⟩
    exact bind_eq_ok.2 ⟨n, hn, rfl⟩
  have hlatest : files.latest q = .ok (greatest l) := by
    unfold latest
    rw [hfound]
    exact bind_eq_ok.2 ⟨found, rfl, bind_eq_ok.2 ⟨l, hnumbered, rfl⟩⟩
  rw [hlatest]
  cases hl with
  | nil => exact Or.inl ⟨rfl, rfl⟩
  | @cons f p found l hfp hrest =>
    have hall : List.Forall₂ IsNumbered (f :: found) (p :: l) := .cons hfp hrest
    obtain ⟨g, hg, hfold, hmax⟩ := foldl_later l p
    obtain ⟨f', hf', hgnum⟩ := exists_of_mem_right hall hg
    obtain ⟨r, rfl⟩ := hmade f' hf'
    refine Or.inr ⟨r, hf', ?_, ?_⟩
    · show Except.ok ((l.foldl later (some p)).map (·.2)) = _
      rw [hfold, Option.map_some, hgnum.1]
    · intro s hs
      obtain ⟨p', hp', hsnum⟩ := exists_of_mem_left hall hs
      rw [← hgnum.version, ← hsnum.version]
      exact hmax p' hp'

/-- What is found for a pattern without double stars is loaded from the greatest version, where all
files are those of records. -/
theorem load_cases {files : Files} (hmade : ∀ f ∈ files, ∃ r, f = File.of r) {q : String}
    (hq : '/' ∉ q.toList) (hpair : Text.hasPair '*' q = false) (now : Moment) :
    (files.filter (File.counts q) = [] ∧ files.load now q = .ok none) ∨
      ∃ r, File.of r ∈ files.filter (File.counts q) ∧
        files.load now q = ((File.of r).read now).map some ∧
        ∀ s, File.of s ∈ files.filter (File.counts q) → s.version ≤ r.version := by
  have hfound : files.versions q = .ok (files.filter (File.counts q)) := by
    rw [versions_cases hq, hpair, if_neg Bool.false_ne_true]
  have hmade' : ∀ f ∈ files.filter (File.counts q), ∃ r, f = File.of r :=
    fun f hf => hmade f (List.mem_filter.1 hf).1
  unfold Files.load
  rcases latest_cases hfound hmade' with ⟨hnone, hlatest⟩ | ⟨r, hr, hlatest, hmax⟩
  · exact Or.inl ⟨hnone, by rw [hlatest]; rfl⟩
  · refine Or.inr ⟨r, hr, ?_, hmax⟩
    rw [hlatest]
    cases hread : (File.of r).read now <;> simp only [bind, Except.bind, hread] <;> rfl

end Files

/-! ### Filled stores -/

/-- A file is a version of a workflow. -/
def File.OfId (id : String) (f : File) : Prop := ∃ r, f = File.of r ∧ r.id = id

theorem File.ofId_of {id : String} {r : Record} : (File.of r).OfId id ↔ r.id = id := by
  constructor
  · rintro ⟨s, heq, rfl⟩
    exact (nameOf_inj (congrArg File.name heq)).1
  · rintro rfl
    exact ⟨r, rfl, rfl⟩

/-- All files of a store are versions of workflows with plain ids, each with a name of its own. -/
structure Shelved (files : Files) : Prop where
  made : ∀ f ∈ files, ∃ r, f = File.of r ∧ IsPlainId r.id
  distinct : (files.map (·.name)).Nodup

theorem Shelved.nil : Shelved [] := ⟨fun _ hf => absurd hf List.not_mem_nil, List.nodup_nil⟩

theorem Shelved.sublist {files kept : Files} (h : Shelved files) (hk : kept.Sublist files) :
    Shelved kept :=
  ⟨fun f hf => h.made f (hk.mem hf), h.distinct.sublist (hk.map _)⟩

/-- Files of one name are one file. -/
theorem Shelved.eq_of_name {files : Files} (h : Shelved files) {f g : File} (hf : f ∈ files)
    (hg : g ∈ files) (hname : f.name = g.name) : f = g :=
  List.inj_on_of_nodup_map h.distinct hf hg hname

/-- Whether a file of a name is there. -/
theorem Shelved.fileAt?_eq_none {files : Files} (h : Shelved files) {name : String} :
    files.fileAt? .home name = none ↔ name ∉ files.map (·.name) := by
  unfold Files.fileAt?
  rw [List.find?_eq_none, List.mem_map]
  constructor
  · rintro hnone ⟨f, hf, rfl⟩
    obtain ⟨r, rfl, -⟩ := h.made f hf
    exact hnone _ hf (by simp [File.of])
  · intro hout f hf hname
    simp only [Bool.and_eq_true, decide_eq_true_eq] at hname
    exact hout ⟨f, hf, hname.2⟩

/-- What is found for a pattern without double stars is loaded from the greatest version. -/
theorem Shelved.load_cases {files : Files} (h : Shelved files) {q : String} (hq : '/' ∉ q.toList)
    (hpair : Text.hasPair '*' q = false) (now : Moment) :
    (files.filter (File.counts q) = [] ∧ files.load now q = .ok none) ∨
      ∃ r, File.of r ∈ files.filter (File.counts q) ∧
        files.load now q = ((File.of r).read now).map some ∧
        ∀ s, File.of s ∈ files.filter (File.counts q) → s.version ≤ r.version := by
  refine Files.load_cases ?_ hq hpair now
  intro f hf
  obtain ⟨r, hr, -⟩ := h.made f hf
  exact ⟨r, hr⟩

/-- What is read from the file of a record has its id and its version. -/
theorem read_of {r r' : Record} {now : Moment} (h : (File.of r).read now = .ok r') :
    r'.id = r.id ∧ r'.version = r.version := by
  have hdocument : (File.of r).document = r.toJson.finiteOnly := rfl
  unfold File.read at h
  rw [hdocument] at h
  split at h
  · rename_i hdecode
    cases h
    exact Record.decode_names hdecode
  · cases h

theorem IsPlainId.hasPair {q : String} (hq : IsPlainId q) : Text.hasPair '*' q = false := by
  unfold Text.hasPair
  rw [List.any_eq_false]
  rintro ⟨a, b⟩ hab
  have ha := hq.plain a (List.of_mem_zip hab).1
  have hne : a ≠ '*' := by
    rintro rfl
    exact absurd ha (by decide)
  simp [hne]

/-- **A request leaves a filled store filled**, if what it saves has a plain id. -/
theorem Shelved.after {files : Files} (h : Shelved files) {request : Request}
    (hplain : request.IsPlain) : Shelved (request.after files) := by
  cases request with
  | load now id => exact h
  | list now => exact h
  | delete id => exact h.sublist (Request.after_delete_sublist id files)
  | save now r =>
    rcases Request.after_save_cases now hplain.slash files with hsame | ⟨o, -, -, hfree, hnew⟩
    · rw [hsame]
      exact h
    · have hid := r.following_id now o
      rw [← hid, h.fileAt?_eq_none] at hfree
      rw [hnew]
      refine ⟨?_, ?_⟩
      · rw [List.forall_mem_cons]
        exact ⟨⟨_, rfl, by rw [hid]; exact hplain⟩, h.made⟩
      · rw [List.map_cons, List.nodup_cons]
        exact ⟨hfree, h.distinct⟩

/-- Every store that was filled from the start with plain ids is a filled one. -/
theorem shelved_after {requests : List Request} (hplain : ∀ request ∈ requests, request.IsPlain) :
    Shelved (Files.after [] requests) :=
  Files.after_induction (fun _ _ h => h.after) Shelved.nil hplain

/-! ### Isolation -/

/-- An id is isolated in a store: loading looks at the greatest of its own versions, if it has one,
and deleting takes away its own versions and no others. -/
structure Isolated (now : Moment) (files : Files) (q : String) : Prop where
  load : (files.load now q = .ok none ∧ ∀ f ∈ files, ¬ f.OfId q) ∨
    ∃ r, r.id = q ∧ File.of r ∈ files ∧
      (∀ s, s.id = q → File.of s ∈ files → s.version ≤ r.version) ∧
      files.load now q = ((File.of r).read now).map some
  own : ∀ r, files.load now q = .ok (some r) → r.id = q
  delete : ∃ existed kept, files.delete q = .ok (existed, kept) ∧
    (existed = true ↔ ∃ f ∈ files, f.OfId q) ∧ kept.Sublist files ∧
    ∀ f ∈ files, f ∈ kept ↔ ¬ f.OfId q

/-- A file is left exactly if it is none of those that count. -/
theorem Shelved.mem_kept {files : Files} (h : Shelved files) {f : File} (hf : f ∈ files)
    {q : String} : f ∈ files.filter (fun f => !(files.filter (File.counts q)).any fun g =>
      g.folder = f.folder && g.name = f.name) ↔ ¬ f.counts q = true := by
  rw [List.mem_filter, Bool.not_eq_true', List.any_eq_false]
  constructor
  · rintro ⟨-, hgone⟩ hcounts
    exact hgone f (List.mem_filter.2 ⟨hf, hcounts⟩) (by simp)
  · intro hout
    refine ⟨hf, ?_⟩
    intro g hg hsame
    obtain ⟨hgin, hgcounts⟩ := List.mem_filter.1 hg
    simp only [Bool.and_eq_true, decide_eq_true_eq] at hsame
    obtain rfl := h.eq_of_name hgin hf hsame.2
    exact hout hgcounts

/-- The files that count for an id are its own. -/
def OwnCount (files : Files) (q : String) : Prop :=
  ∀ r, File.of r ∈ files → ((File.of r).counts q = true ↔ r.id = q)

/-- Deleting an isolated id leaves what does not count for it, which is what is not its own. -/
theorem Isolated.ownCount {files : Files} {now : Moment} {q : String}
    (hisolated : Isolated now files q) (h : Shelved files) (hq : '/' ∉ q.toList) :
    Text.hasPair '*' q = false ∧ OwnCount files q := by
  obtain ⟨existed, kept, hdelete, -, -, hkept⟩ := hisolated.delete
  obtain ⟨found, hfound, heq⟩ := bind_eq_ok.1 hdelete
  cases heq
  rw [versions_cases hq] at hfound
  split at hfound
  · cases hfound
  · rename_i hpair
    cases hfound
    refine ⟨by simpa using hpair, ?_⟩
    intro r hr
    have hgone := hkept _ hr
    rw [h.mem_kept hr, File.ofId_of, not_iff_not] at hgone
    exact hgone

namespace OwnCount

variable {files : Files} {q : String}

theorem mem_iff (hown : OwnCount files q) (h : Shelved files) {f : File} (hf : f ∈ files) :
    f ∈ files.filter (File.counts q) ↔ f.OfId q := by
  obtain ⟨r, rfl, -⟩ := h.made f hf
  rw [File.ofId_of, List.mem_filter, ← hown r hf]
  exact and_iff_right hf

theorem load (hown : OwnCount files q) (h : Shelved files) (hq : '/' ∉ q.toList)
    (hpair : Text.hasPair '*' q = false) (now : Moment) :
    (files.load now q = .ok none ∧ ∀ f ∈ files, ¬ f.OfId q) ∨
      ∃ r, r.id = q ∧ File.of r ∈ files ∧
        (∀ s, s.id = q → File.of s ∈ files → s.version ≤ r.version) ∧
        files.load now q = ((File.of r).read now).map some := by
  rcases h.load_cases hq hpair now with ⟨hnone, hload⟩ | ⟨r, hr, hload, hmax⟩
  · refine Or.inl ⟨hload, ?_⟩
    intro f hf hid
    have hin := (hown.mem_iff h hf).2 hid
    rw [hnone] at hin
    exact absurd hin List.not_mem_nil
  · have hfiles := (List.mem_filter.1 hr).1
    refine Or.inr ⟨r, File.ofId_of.1 ((hown.mem_iff h hfiles).1 hr), hfiles, ?_, hload⟩
    intro s hs hsfiles
    exact hmax s ((hown.mem_iff h hsfiles).2 (File.ofId_of.2 hs))

theorem delete (hown : OwnCount files q) (h : Shelved files) (hq : '/' ∉ q.toList)
    (hpair : Text.hasPair '*' q = false) :
    ∃ existed kept, files.delete q = .ok (existed, kept) ∧
      (existed = true ↔ ∃ f ∈ files, f.OfId q) ∧ kept.Sublist files ∧
      ∀ f ∈ files, f ∈ kept ↔ ¬ f.OfId q := by
  have hfound : files.versions q = .ok (files.filter (File.counts q)) := by
    rw [versions_cases hq, hpair, if_neg Bool.false_ne_true]
  refine ⟨_, _, bind_eq_ok.2 ⟨_, hfound, rfl⟩, ?_, List.filter_sublist, ?_⟩
  · rw [Bool.not_eq_true', List.isEmpty_eq_false_iff_exists_mem]
    constructor
    · rintro ⟨f, hf⟩
      have hin := (List.mem_filter.1 hf).1
      exact ⟨f, hin, (hown.mem_iff h hin).1 hf⟩
    · rintro ⟨f, hf, hid⟩
      exact ⟨f, (hown.mem_iff h hf).2 hid⟩
  · intro f hf
    obtain ⟨r, rfl, -⟩ := h.made f hf
    rw [h.mem_kept hf, hown r hf, File.ofId_of]

theorem isolated (hown : OwnCount files q) (h : Shelved files) (hq : '/' ∉ q.toList)
    (hpair : Text.hasPair '*' q = false) (now : Moment) : Isolated now files q := by
  have hload := hown.load h hq hpair now
  refine ⟨hload, ?_, hown.delete h hq hpair⟩
  intro r hr
  rcases hload with ⟨hnone, -⟩ | ⟨s, hs, -, -, hread⟩
  · rw [hnone] at hr
    cases hr
  · rw [hread] at hr
    obtain ⟨_, hread, heq⟩ := map_eq_ok.1 hr
    cases heq
    exact (read_of hread).1.trans hs

end OwnCount

/-- **In a filled store an id is isolated exactly if its own files count for it and no others.** -/
theorem Shelved.isolated_iff {files : Files} (h : Shelved files) {q : String}
    (hq : '/' ∉ q.toList) (now : Moment) : Isolated now files q ↔ Text.hasPair '*' q = false ∧
      ∀ r, File.of r ∈ files → ((File.of r).counts q = true ↔ r.id = q) := by
  constructor
  · exact fun hisolated => hisolated.ownCount h hq
  · rintro ⟨hpair, hown⟩
    exact OwnCount.isolated hown h hq hpair now

/-- **A plain id is isolated**, unless a version of it has a negative number. -/
theorem Shelved.isolated {files : Files} (h : Shelved files) {q : String} (hq : IsPlainId q)
    (hversion : ∀ r, File.of r ∈ files → r.id = q → 0 ≤ r.version) (now : Moment) :
    Isolated now files q := by
  refine (h.isolated_iff hq.slash now).2 ⟨hq.hasPair, ?_⟩
  intro r hr
  rw [counts_iff hq]
  exact ⟨fun hcounts => hcounts.1, fun hid => ⟨hid, hversion r hr hid⟩⟩

/-- **Stores that were filled with plain ids.** Whatever was saved, loaded and deleted before, an id
without slashes is isolated exactly if it has no double star and the files that count for it are its
own. A plain id always is, unless a version of it has a negative number. -/
theorem isolated_after {requests : List Request}
    (hplain : ∀ request ∈ requests, request.IsPlain) (now : Moment) {q : String}
    (hq : '/' ∉ q.toList) :
    (Isolated now (Files.after [] requests) q ↔ Text.hasPair '*' q = false ∧
      ∀ r, File.of r ∈ Files.after [] requests → ((File.of r).counts q = true ↔ r.id = q)) ∧
      (IsPlainId q → (∀ r, File.of r ∈ Files.after [] requests → r.id = q → 0 ≤ r.version) →
        Isolated now (Files.after [] requests) q) :=
  ⟨(shelved_after hplain).isolated_iff hq now,
    fun hplainId hversion => (shelved_after hplain).isolated hplainId hversion now⟩

/-! ### Ids that are drawn -/

/-- The text of a UUID: 32 figures in small letters, in groups with hyphens between them. -/
def isUuid (id : String) : Bool :=
  id.length = 36 && id.toList.zipIdx.all fun p =>
    if p.2 = 8 || p.2 = 13 || p.2 = 18 || p.2 = 23 then p.1 = '-'
    else "0123456789abcdef".toList.contains p.1

/-- The text of a UUID is a plain id. -/
theorem isPlainId_of_isUuid {id : String} (h : isUuid id = true) : IsPlainId id := by
  have hchars : ∀ c ∈ id.toList, c ∈ '-' :: "0123456789abcdef".toList := by
    intro c hc
    obtain ⟨i, hi⟩ := List.mem_iff_getElem?.1 hc
    have hmem : (c, i) ∈ id.toList.zipIdx := List.mem_zipIdx_iff_getElem?.2 hi
    have hone := List.all_eq_true.1 (Bool.and_eq_true_iff.1 h).2 _ hmem
    dsimp only at hone
    split at hone
    · rw [decide_eq_true_eq] at hone
      exact hone ▸ List.mem_cons_self
    · exact List.mem_cons_of_mem _ (List.contains_iff_mem.1 hone)
  have hslash : '/' ∉ '-' :: "0123456789abcdef".toList := by decide
  have hplain : Glob.IsPlain ('-' :: "0123456789abcdef".toList) := by decide
  exact ⟨fun h => hslash (hchars _ h), fun c hc => hplain c (hchars c hc)⟩

namespace Newsletters

/-- Nine in the morning of the first of January 2024. -/
def morning : Moment := Moment.ofParts ⟨2024, 1, 1⟩ ⟨9, 0, 0, 0⟩ (some 0)

/-- A newsletter that is sent by hand. -/
def newsletter : Record where
  id := "5b0c3c9e-7c40-4a6b-9a0e-2f4d1e8b7a11"
  name := "Newsletter"
  description := none
  status := .active
  definition := ⟨[⟨"t", "manual-trigger", .origin, []⟩,
    ⟨"mail", "send-email", .origin, [("subject", .str "News"), ("body", .str "Hi")]⟩],
    [⟨"", "t", "mail"⟩], ⟨none⟩⟩
  version := 1
  createdAt := morning
  updatedAt := morning

/-- A workflow that is being written. -/
def reminder : Record :=
  { newsletter with id := "0d9f2b64-51aa-4c0d-8d3e-6b7c1f20e9d2", name := "Reminder",
                    status := .draft }

/-- The newsletter is saved twice and the reminder in between. -/
def saves : List Request :=
  [.save morning newsletter, .save morning reminder, .save morning newsletter]

/-- As many question marks as a UUID has figures. -/
def marks : String := "????????-????-????-????-????????????"

end Newsletters

open Newsletters in
theorem isolated_after_saves : '/' ∉ reminder.id.toList ∧ IsPlainId reminder.id ∧
    (∀ request ∈ saves, request.IsPlain) ∧
    Isolated morning (Files.after [] saves) reminder.id := by
  have hnewsletter : IsPlainId newsletter.id := isPlainId_of_isUuid (by decide)
  have hreminder : IsPlainId reminder.id := isPlainId_of_isUuid (by decide)
  have hplain : ∀ request ∈ saves, request.IsPlain := by
    simp only [saves, List.forall_mem_cons]
    exact ⟨hnewsletter, hreminder, hnewsletter, fun _ h => absurd h List.not_mem_nil⟩
  have hnumbers : ∀ f ∈ Files.after [] saves, f.number = .ok 1 ∨ f.number = .ok 2 := by
    decide +kernel
  have hversion : ∀ r, File.of r ∈ Files.after [] saves → r.id = reminder.id →
      0 ≤ r.version := by
    intro r hr _
    have hnumber := hnumbers _ hr
    simp only [number_of, Except.ok.injEq] at hnumber
    omega
  exact ⟨hreminder.slash, hreminder, hplain,
    (isolated_after hplain morning hreminder.slash).2 hreminder hversion⟩

open Newsletters in
/-- Question marks in the place of its characters load a workflow and delete all its versions. -/
theorem question_marks_delete_all : isUuid newsletter.id = true ∧ '/' ∉ marks.toList ∧
    newsletter.id ≠ marks ∧
    Files.after [] [.save morning newsletter] = [File.of newsletter] ∧
    Files.load morning [File.of newsletter] marks = .ok (some newsletter) ∧
    Files.delete [File.of newsletter] marks = .ok (true, []) := by
  decide +kernel

end Workflow
end Cadence
