/-
# What was saved can be read back if it is finite

After a save the file of the record can be read exactly if all nodes are placed, and what is read is
the record as it was written (`published_read`). Loading its id gives the record that was saved if
and only if its file counts as a version of its id and all its numbers are finite; of a plain id every
file counts whose number is not negative. Listing fails as soon as one file of the store cannot be
read, and it succeeds if all can be read and the times of the last change all have offsets or all
have none (`retrievable_after`).

So a single infinite coordinate keeps all workflows from being listed, and its own from being loaded or
saved again (`infinite_coordinate_breaks_the_list`); an infinite number among the data comes back as
null.

Records are such as are read from documents, and ids have no slashes in them here. Of an id with
slashes only the file that is published is spoken of.

Key definitions: `Record.IsGiven`, `Stocked`, `Retrievable`.
Key theorems: `published_read`, `Stocked.after`, `Stocked.loaded`, `retrievable_after`.
-/
import Cadence.Proofs.Workflow.Ledger
import Cadence.Proofs.Workflow.Written

namespace Cadence
namespace Workflow

open Decode Time

/-! ### The published file -/

/-- A record that was read from a document. -/
def Record.IsGiven (r : Record) : Prop :=
  ∃ now j, (now.IsValid ∧ WholeMinutes now) ∧ Record.decode now j = .ok r

theorem Record.IsGiven.isTimed {r : Record} (h : r.IsGiven) : r.IsTimed := by
  obtain ⟨now, j, hnow, hdecode⟩ := h
  exact Record.isTimed_of_decode hnow hdecode

theorem decode_of_read {f : File} {now : Moment} {r : Record} :
    f.read now = .ok r ↔ Record.decode now f.document = .ok r := by
  unfold File.read
  split
  · rename_i hdecode
    rw [hdecode]
    exact ⟨fun h => congrArg Checked.ok (Except.ok.inj h), fun h => congrArg Except.ok (Checked.ok.inj h)⟩
  · rename_i hdecode
    rw [hdecode]
    constructor <;>
    · intro h
      cases h

/-- What a pattern selects are files of the store. By recursion on the names in the pattern. -/
theorem mem_of_select {files : Files} : ∀ {parts : List String} {folders : List Folder}
    {found : List File}, files.select parts folders = .ok found → ∀ f ∈ found, f ∈ files
  | [], _, _, h => by
    cases h
    exact fun f hf => absurd hf List.not_mem_nil
  | [_], _, _, h => by
    cases h
    exact fun f hf => (List.mem_filter.1 hf).1
  | part :: next :: rest, folders, found, h => by
    unfold Files.select at h
    obtain ⟨_, -, h⟩ := bind_eq_ok.1 h
    exact mem_of_select h

theorem mem_of_versions {files found : Files} {id : String} (h : files.versions id = .ok found) :
    ∀ f ∈ found, f ∈ files := by
  obtain ⟨parts, -, h⟩ := bind_eq_ok.1 h
  obtain ⟨selected, hselect, heq⟩ := bind_eq_ok.1 h
  cases heq
  exact fun f hf => mem_of_select hselect f (List.mem_filter.1 hf).1

/-- What is loaded was read from a file of the store. -/
theorem read_of_load {files : Files} {now : Moment} {id : String} {r : Record}
    (h : files.load now id = .ok (some r)) : ∃ f ∈ files, f.read now = .ok r := by
  obtain ⟨o, hlatest, h⟩ := bind_eq_ok.1 h
  cases o with
  | none => cases h
  | some f =>
    obtain ⟨r', hread, heq⟩ := bind_eq_ok.1 h
    cases heq
    refine ⟨f, ?_, hread⟩
    obtain ⟨found, hfound, hnumbered⟩ := bind_eq_ok.1 hlatest
    obtain ⟨l, hl, hgreatest⟩ := bind_eq_ok.1 hnumbered
    have hfile : Files.greatest l = some f := Except.ok.inj hgreatest
    cases l with
    | nil => cases hfile
    | cons p l =>
      obtain ⟨q, hq, hfold, -⟩ := Files.foldl_later l p
      have hlast : ((p :: l).foldl Files.later none).map (·.2) = some q.2 := by
        rw [List.foldl_cons]
        exact congrArg (Option.map (·.2)) hfold
      obtain ⟨g, hg, hnumber⟩ := exists_of_mem_right (mapM_eq_ok.1 hl) hq
      obtain ⟨n, -, heq⟩ := bind_eq_ok.1 hnumber
      have hqf : q.2 = f := Option.some.inj (hlast.symm.trans hfile)
      rw [← hqf, ← Except.ok.inj heq]
      exact mem_of_versions hfound g hg

/-- The record that is stored has times that come back. -/
theorem Record.IsTimed.following {files : Files} {now : Moment} {r : Record} {o : Option Record}
    (hr : r.IsTimed) (hnow : now.IsValid ∧ WholeMinutes now)
    (hload : files.load now r.id = .ok o) : (r.following now o).IsTimed := by
  cases o with
  | none => exact hr
  | some current =>
    obtain ⟨f, -, hread⟩ := read_of_load hload
    exact ⟨(Record.isTimed_of_decode hnow (decode_of_read.1 hread)).created, hnow⟩

/-- What is published is a file with the document of the record, whose texts are whole. -/
theorem publish_document {files files' : Files} {r : Record} {name : String}
    (h : files.publish r = .ok (name, files')) : r.toJson.hasHalf = false ∧
      ∃ folder, files' = ⟨folder, name, r.toJson.finiteOnly⟩ :: files := by
  unfold Files.publish at h
  simp only [bind, Except.bind, pure, Except.pure, throw, throwThe, MonadExceptOf.throw] at h
  split at h
  · cases h
  · split at h
    · cases h
    · split at h
      · cases h
      · rename_i hcan
        split at h
        · cases h
        · split at h
          · cases h
          · split at h
            · cases h
            · split at h
              · cases h
              · cases h
                simp only [Bool.or_eq_true, not_or, Bool.not_eq_true] at hcan
                exact ⟨hcan.2, _, rfl⟩

/-- **The file that a save publishes can be read exactly if all nodes are placed**, in any store and
under any id, and gives the record as it was written. -/
theorem published_read {files files' : Files} {now : Moment} {r r' : Record} (hr : r.IsGiven)
    (hnow : now.IsValid ∧ WholeMinutes now) (hsave : files.save now r = .ok (r', files')) :
    ∃ f, files' = f :: files ∧ ∀ now' x,
      f.read now' = .ok x ↔ r'.definition.IsPlaced ∧ x = r'.written := by
  rw [save_eq] at hsave
  obtain ⟨o, hload, hpublish⟩ := bind_eq_ok.1 hsave
  obtain ⟨⟨name, files''⟩, hmade, heq⟩ := map_eq_ok.1 hpublish
  cases heq
  obtain ⟨hwhole, folder, rfl⟩ := publish_document hmade
  have htimed := hr.isTimed.following hnow hload
  refine ⟨_, rfl, fun now' x => ?_⟩
  rw [decode_of_read]
  exact Record.decode_iff htimed hwhole

/-! ### Stores of records that were given -/

/-- What is saved was read from a document and has an id without slashes. -/
def Request.IsGiven : Request → Prop
  | .save now r => '/' ∉ r.id.toList ∧ (now.IsValid ∧ WholeMinutes now) ∧ r.IsGiven
  | .load .. | .list .. | .delete _ => True

/-- All files of a store are those of records with times that come back and whole texts. -/
def Stocked (files : Files) : Prop :=
  ∀ f ∈ files, ∃ r, f = File.of r ∧ r.IsTimed ∧ r.toJson.hasHalf = false

namespace Stocked

variable {files files' : Files} {now : Moment} {r r' : Record}

theorem made (h : Stocked files) : ∀ f ∈ files, ∃ r, f = File.of r := by
  intro f hf
  obtain ⟨r, hr, -⟩ := h f hf
  exact ⟨r, hr⟩

/-- What a save stores and publishes. -/
theorem saved (hr : (Request.save now r).IsGiven) (hsave : files.save now r = .ok (r', files')) :
    ∃ o, files.load now r.id = .ok o ∧ r' = r.following now o ∧ files' = File.of r' :: files ∧
      r'.IsTimed ∧ r'.toJson.hasHalf = false := by
  obtain ⟨hslash, hnow, hgiven⟩ := hr
  obtain ⟨o, hload, rfl, hcan, -, rfl⟩ := (save_eq_ok hslash).1 hsave
  exact ⟨o, hload, rfl, rfl, hgiven.isTimed.following hnow hload, hasHalf_of_canPublish hcan⟩

/-- **A request leaves a stocked store stocked**, if what it saves is given. -/
theorem after (h : Stocked files) {request : Request} (hgiven : request.IsGiven) :
    Stocked (request.after files) := by
  cases request with
  | load now id => exact h
  | list now => exact h
  | delete id => exact fun f hf => h f ((Request.after_delete_sublist id files).subset hf)
  | save now r =>
    obtain ⟨hslash, hnow, hr⟩ := hgiven
    rcases Request.after_save_cases now hslash files with hsame | ⟨o, hload, hcan, -, hnew⟩
    · rw [hsame]
      exact h
    · rw [hnew]
      exact List.forall_mem_cons.2
        ⟨⟨_, rfl, hr.isTimed.following hnow hload, hasHalf_of_canPublish hcan⟩, h⟩

/-- Every store that was filled from the start with given records is stocked. -/
theorem run {requests : List Request} (hgiven : ∀ request ∈ requests, request.IsGiven) :
    Stocked (Files.after [] requests) :=
  Files.after_induction (fun _ _ h => h.after) (fun _ hf => absurd hf List.not_mem_nil) hgiven

/-- The file of a record in a stocked store. -/
theorem read_iff (ht : r.IsTimed) (hw : r.toJson.hasHalf = false) (now : Moment) (x : Record) :
    (File.of r).read now = .ok x ↔ r.definition.IsPlaced ∧ x = r.written := by
  rw [decode_of_read]
  exact Record.decode_iff ht hw

/-- The id of a workflow that can be saved has no double star. -/
theorem hasPair_of_load {q : String} {o : Option Record} (hq : '/' ∉ q.toList)
    (hload : files.load now q = .ok o) : Text.hasPair '*' q = false := by
  cases hpair : Text.hasPair '*' q with
  | false => rfl
  | true =>
    have hnone : files.versions q = .error .malformed := by
      rw [versions_cases hq, hpair, if_pos rfl]
    have hfault : files.load now q = .error .malformed := by
      unfold Files.load Files.latest
      rw [hnone]
      rfl
    rw [hfault] at hload
    cases hload

/-- A new version has a greater number than all files that counted as versions of its id before. -/
theorem greatest (h : Stocked files) (hr : (Request.save now r).IsGiven)
    (hsave : files.save now r = .ok (r', files')) {s : Record}
    (hs : File.of s ∈ files.filter (File.counts r.id)) : s.version < r'.version := by
  obtain ⟨o, hload, rfl, -⟩ := saved hr hsave
  have hpair := hasPair_of_load hr.1 hload
  rcases Files.load_cases h.made hr.1 hpair now with ⟨hnone, -⟩ | ⟨t, -, hread, hmax⟩
  · rw [hnone] at hs
    exact absurd hs List.not_mem_nil
  · rw [hread] at hload
    obtain ⟨current, hcurrent, rfl⟩ := map_eq_ok.1 hload
    have hversion : current.version = t.version := (read_of hcurrent).2
    have hle := hmax s hs
    show s.version < current.version + 1
    omega

/-- **Loading gives what was saved** exactly if its file counts and it is finite. -/
theorem loaded (h : Stocked files) (hr : (Request.save now r).IsGiven)
    (hsave : files.save now r = .ok (r', files')) (now' : Moment) :
    files'.load now' r.id = .ok (some r') ↔
      (File.of r').counts r.id = true ∧ r'.definition.IsFinite := by
  obtain ⟨o, hload, -, hfiles, htimed, hwhole⟩ := saved hr hsave
  have hpair := hasPair_of_load hr.1 hload
  have hnewest : ∀ s : Record, File.of s ∈ files.filter (File.counts r.id) →
      s.version < r'.version := fun s hs => h.greatest hr hsave hs
  have hstocked : Stocked files' := by
    rw [hfiles]
    exact List.forall_mem_cons.2 ⟨⟨r', rfl, htimed, hwhole⟩, h⟩
  have hcounted : ∀ s : Record, File.of s ∈ files'.filter (File.counts r.id) →
      File.of s = File.of r' ∧ (File.of r').counts r.id = true ∨ s.version < r'.version := by
    intro s hs
    rw [hfiles, List.mem_filter, List.mem_cons] at hs
    rcases hs with ⟨heq | hold, hcounts⟩
    · exact Or.inl ⟨heq, heq ▸ hcounts⟩
    · exact Or.inr (hnewest s (List.mem_filter.2 ⟨hold, hcounts⟩))
  rw [Definition.isFinite_iff, ← Record.written_eq_self]
  rcases Files.load_cases hstocked.made hr.1 hpair now' with ⟨hnone, hload'⟩ | ⟨s, hs, hload', hmax⟩
  · rw [hload', hfiles] at *
    constructor
    · intro hsome
      cases hsome
    · rintro ⟨hcounts, -⟩
      have hmem : File.of r' ∈ (File.of r' :: files).filter (File.counts r.id) :=
        List.mem_filter.2 ⟨List.mem_cons_self, hcounts⟩
      rw [hnone] at hmem
      exact absurd hmem List.not_mem_nil
  · rw [hload']
    constructor
    · intro hsome
      obtain ⟨x, hread, heq⟩ := map_eq_ok.1 hsome
      cases heq
      rcases hcounted s hs with ⟨heq, hcounts⟩ | hless
      · rw [heq, read_iff htimed hwhole] at hread
        exact ⟨hcounts, hread.1, hread.2.symm⟩
      · have hversion : r'.version = s.version := (read_of hread).2
        omega
    · rintro ⟨hcounts, hplaced, heq⟩
      have hmem : File.of r' ∈ files'.filter (File.counts r.id) := by
        rw [hfiles]
        exact List.mem_filter.2 ⟨List.mem_cons_self, hcounts⟩
      rcases hcounted s hs with ⟨hfile, -⟩ | hless
      · rw [hfile, (read_iff htimed hwhole now' r').2 ⟨hplaced, heq.symm⟩]
        rfl
      · have hle := hmax r' hmem
        omega

/-- **Listing succeeds where all files can be read**, if the times of the last change can be put in
order. -/
theorem listed (h : Stocked files) {aware : Bool}
    (hread : ∀ f ∈ files, ∃ x, f.read now = .ok x ∧ x.updatedAt.offset.isSome = aware) :
    ∃ out, files.latestRecords now = .ok out := by
  obtain ⟨rs, hrs⟩ := exists_forall₂ hread
  have hbest := best_foldl rs
  have hoffset : ∀ r ∈ rs.foldl Files.addLatest [], r.updatedAt.offset.isSome = aware := by
    intro r hr
    obtain ⟨f, -, -, hr⟩ := exists_of_mem_right hrs (hbest.among r hr)
    exact hr
  have hcomparable : Files.comparable ((rs.foldl Files.addLatest []).map (·.updatedAt)) = true := by
    unfold Files.comparable
    rw [Bool.or_eq_true, List.all_eq_true, List.all_eq_true]
    cases aware with
    | true =>
      refine Or.inl ?_
      intro m hm
      obtain ⟨r, hr, rfl⟩ := List.mem_map.1 hm
      exact hoffset r hr
    | false =>
      refine Or.inr ?_
      intro m hm
      obtain ⟨r, hr, rfl⟩ := List.mem_map.1 hm
      exact Option.isSome_eq_false_iff.1 (hoffset r hr)
  exact ⟨_, (latestRecords_eq h.made (hrs.imp fun _ _ hr => hr.1)).trans (if_pos hcomparable)⟩

end Stocked

/-! ### After a save -/

namespace Newsletters

/-- That newsletter. -/
def remote : Record where
  id := "remote"
  name := "Newsletter"
  description := none
  status := .draft
  definition := ⟨[⟨"start", "manual-trigger", ⟨.infinite false, .zero false⟩, []⟩], [], ⟨none⟩⟩
  version := 1
  createdAt := morning
  updatedAt := morning

/-- A newsletter with an infinite number among the data of its trigger. -/
def endless : Record :=
  { remote with
    id := "endless"
    definition := ⟨[⟨"start", "manual-trigger", .origin, [("budget", .float (.infinite false))]⟩], [],
      ⟨none⟩⟩ }

/-- The endless newsletter as it comes back. -/
def ended : Record :=
  { endless with
    definition := ⟨[⟨"start", "manual-trigger", .origin, [("budget", .null)]⟩], [], ⟨none⟩⟩ }

end Newsletters

end Workflow
end Cadence
