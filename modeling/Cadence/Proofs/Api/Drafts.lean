/-
# Only drafts may have flaws

A workflow that is no draft must have a definition that can be run when it is made, and again whenever
anything about it is changed. So all files of the store are those of records that are drafts or can be
run, and this is kept by every event (`vetted_perform`): only making, changing and deleting workflows
touches the files at all. What is read from a file can be run if what was written could
(`linearize_written`), so whoever enrolls a lead in a workflow that is no draft is never told that its
definition is flawed (`only_drafts_flawed`).

Key definitions: `Vets`.
Key theorems: `operationOf_vets`, `vetted_after`, `enroll_refused`, `only_drafts_flawed`.
-/
import Cadence.Json.Printer
import Cadence.Proofs.Api.Calls
import Cadence.Proofs.Service.Shape
import Cadence.Proofs.Workflow.Fit

namespace Cadence
namespace Api

open Service (Op Refused after_bind)
open Time
open Workflow (IsPlainId Vetted)

variable {σ α β : Type}

/-! ### What operations do to the files -/

/-- An operation that leaves a vetted store vetted. -/
def Vets (op : Op σ α) : Prop := ∀ s, Vetted s.files → Vetted (op.after s).files

/-- An operation that does not touch the files leaves the store vetted. -/
theorem vets_of_files {op : Op σ α} (h : ∀ s, (op.after s).files = s.files) : Vets op := by
  intro s hs
  rw [h s]
  exact hs

theorem vets_of_reads {op : Op σ α} (h : op.Reads) : Vets op :=
  vets_of_files fun s => by rw [h s]

theorem Vets.bind {x : Op σ α} {f : α → Op σ β} (hx : Vets x) (hf : ∀ a, Vets (f a)) :
    Vets (x >>= f) := by
  intro s hs
  rw [after_bind]
  split
  · exact hf _ _ (hx s hs)
  · exact hx s hs

theorem Vets.map {op : Op σ α} (h : Vets op) (g : α → β) : Vets (g <$> op) := by
  intro s hs
  rw [after_map]
  exact h s hs

/-- A save keeps a store vetted, if what is saved is fit. -/
theorem saveWorkflow_vets {r : Workflow.Record} (hid : IsPlainId r.id) (hversion : 0 ≤ r.version)
    (hfit : r.IsFit) : Vets (Service.saveWorkflow r : Op σ Workflow.Record) := by
  intro s hs
  have hfiles : ((Service.saveWorkflow r : Op σ Workflow.Record).after s).files =
      (Workflow.Request.save s.clock.universal r).after s.files := by
    unfold Op.after
    rw [Service.run_saveWorkflow, Workflow.Request.after_save]
    rcases s.files.save s.clock.universal r with f | ⟨r, files⟩ <;> rfl
  rw [hfiles]
  exact hs.save hid hversion hfit

theorem dropWorkflow_vets (id : String) : Vets (Service.dropWorkflow id : Op σ Bool) := by
  intro s hs
  have hfiles : ((Service.dropWorkflow id : Op σ Bool).after s).files =
      (Workflow.Request.delete id).after s.files := by
    unfold Op.after
    rw [Service.run_dropWorkflow, Workflow.Request.after_delete]
    rcases s.files.delete id with f | ⟨found, files⟩ <;> rfl
  rw [hfiles]
  exact hs.delete id

/-- Enrolling, advancing and waking enrollments does not touch the files. -/
theorem operation_files (c : Service.Config) (k : Collaborators σ) (op : Service.Operation)
    (s : Service.State σ) : (op.perform c k s).files = s.files :=
  (Service.Command.operate op).files c k rfl s

/-! ### What calls do to the files -/

/-- The check of a definition passes if the workflow is a draft or can be run. -/
theorem fit_of_requireRunnable {status : Workflow.Status} {d : Workflow.Definition} {u : Unit}
    {s s' : Service.State σ} (h : (requireRunnable status d : Op σ Unit).run s = (.ok u, s')) :
    status ≠ .draft → ∃ chain, d.linearize = .ok chain := by
  intro hne
  unfold requireRunnable at h
  rw [if_pos hne] at h
  cases hline : d.linearize with
  | ok chain => exact ⟨chain, rfl⟩
  | error flaw =>
    rw [hline] at h
    cases h

/-- The ids that the server gives are plain. -/
theorem isPlainId_nextId (s : State σ) : IsPlainId s.nextId := by
  have hchars : ∀ ch ∈ s.nextId.toList, ch ∈ "workflow-".toList ∨ ch.isDigit = true := by
    intro ch hch
    unfold State.nextId at hch
    rw [String.toList_append, List.mem_append] at hch
    refine hch.imp id fun hdigit => ?_
    have hdigits : (toString (s.made + 1)).toList = Nat.toDigits 10 (s.made + 1) :=
      String.toList_ofList
    rw [hdigits] at hdigit
    exact Workflow.isDigit_toDigits hdigit
  refine ⟨fun hslash => ?_, fun ch hch => ?_⟩
  · rcases hchars _ hslash with h | h <;> exact absurd h (by decide)
  · rcases hchars ch hch with h | h
    · exact (show Glob.IsPlain "workflow-".toList by decide) ch h
    · have hne : ∀ other : Char, other.isDigit = false → ch ≠ other := by
        rintro other hother rfl
        exact Bool.false_ne_true (hother.symm.trans h)
      simp [Glob.standsForItself, hne '*' (by decide), hne '?' (by decide), hne '[' (by decide)]

theorem changeWorkflow_vets (id : String) (r : WorkflowChange) :
    Vets (changeWorkflow id r : Op σ Json) := by
  intro s hs
  unfold changeWorkflow
  have hlatest := Service.run_latestWorkflow id s
  rw [after_bind, Service.latestWorkflow_reads id s, hlatest]
  rcases hload : s.files.load s.clock.universal id with f | _ | w
  · exact hs
  · exact hs
  obtain ⟨t, -, ht, hid, hversion, -⟩ := hs.loaded hload
  dsimp only
  rw [after_bind, requireRunnable_reads _ _ s]
  split
  · rename_i u hcheck
    have hfit : (r.applyTo w).IsFit := fit_of_requireRunnable (s := s) (u := u) (Prod.ext hcheck rfl)
    have hplain : IsPlainId (r.applyTo w).id := by
      show IsPlainId w.id
      rw [hid]
      exact ht.plain
    have hnumber : 0 ≤ (r.applyTo w).version := by
      show 0 ≤ w.version
      rw [hversion]
      exact ht.version
    exact (saveWorkflow_vets hplain hnumber hfit).bind (fun w => vets_of_reads (.pure _)) s hs
  · exact hs

/-- **What a call comes to keeps the store vetted.** -/
theorem operationOf_vets (c : Service.Config) (k : Collaborators σ) {newId : String}
    (hid : IsPlainId newId) (call : Call) : Vets (operationOf c k newId call) := by
  by_cases hasks : call.asks = true
  · exact vets_of_reads (operationOf_reads c k newId hasks)
  cases call with
  | makeWorkflow r =>
    intro s hs
    unfold operationOf
    rw [after_bind, requireRunnable_reads _ _ s]
    split
    · rename_i u hcheck
      have hfit := fit_of_requireRunnable (s := s) (u := u) (Prod.ext hcheck rfl)
      refine Vets.map ?_ _ s hs
      exact (vets_of_reads Service.universalNow_reads).bind fun now =>
        (saveWorkflow_vets (r := ⟨newId, r.name, r.description, r.status, r.definition, 1, now, now⟩)
          hid (show (0 : Int) ≤ 1 by decide) hfit).bind fun w => vets_of_reads (.pure _)
    · exact hs
  | changeWorkflow id r => exact (changeWorkflow_vets id r).map _
  | dropWorkflow id =>
    refine ((dropWorkflow_vets id).bind fun found => ?_).map _
    split
    · exact vets_of_reads (.throw _)
    · exact vets_of_reads (.pure _)
  | tryOut id r =>
    refine Vets.map ?_ _
    exact (vets_of_reads (Service.latestWorkflow_reads id)).bind fun w =>
      (vets_of_reads Service.universalNow_reads).bind fun now =>
        (vets_of_files fun s => rfl).bind fun made => vets_of_reads
          ((Op.Reads.orFault made).bind fun report => (orTooDeep_reads _).bind fun _ =>
            (Op.Reads.orFault _).bind fun text => .pure _)
  | enroll id r =>
    exact ((vets_of_files (operation_files c k (.enroll id r.lead r.source r.overrides))).bind
      fun p => vets_of_reads ((orTooDeep_reads _).bind fun e => (orTooDeep_reads _).bind fun report =>
        .pure _)).map _
  | wakeDue =>
    refine ((vets_of_reads Op.Reads.get).bind fun s => ?_).map _
    exact (vets_of_files (operation_files c k (.wakeDue s.clock))).bind fun resumed =>
      vets_of_reads (.pure _)
  | advance id r =>
    exact ((vets_of_files (operation_files c k (.advance id r.ignoreSendWindow r.lead))).bind
      fun report => vets_of_reads ((Service.describe_reads id).bind fun snapshot =>
        (orTooDeep_reads _).bind fun e => (orTooDeep_reads _).bind fun r => .pure _)).map _
  | dropEnrollment id =>
    refine ((vets_of_files fun s => rfl).bind fun found => ?_).map _
    split
    · exact vets_of_reads (.throw _)
    · exact vets_of_reads (.pure _)
  | health | validate | allWorkflows | showWorkflow | enrollmentsOf | showEnrollment | report =>
    exact absurd rfl hasks

/-- **An event keeps the store vetted.** -/
theorem vetted_perform (c : Service.Config) (k : Collaborators σ) (event : Event) (s : State σ)
    (hs : Vetted s.service.files) : Vetted (event.perform c k s).service.files := by
  cases event with
  | request r =>
    have hserve : (Event.request r).perform c k s = (serve c k r s).2 := rfl
    rw [hserve]
    rcases serve_cases c k r s with ⟨refusal, -, heq⟩ | ⟨call, made, -, heq⟩ <;> rw [heq]
    · exact hs
    · exact operationOf_vets c k (isPlainId_nextId s) call s.service hs
  | clock now => exact hs
  | tick => exact vets_of_files (operation_files c k .tick) s.service hs
  | restart =>
    have hfiles := (Service.restart_idle c s.service).files
    show Vetted ((Service.start c).after ((Service.stop : Op σ Unit).after s.service)).files
    rw [hfiles]
    exact hs

/-- The store of a server is vetted, whatever happened to it. -/
theorem vetted_after (c : Service.Config) (k : Collaborators σ) (clock : Moment) (world : σ)
    (events : List Event) :
    Vetted ((State.opening c clock world).after c k events).service.files := by
  refine State.after_induction (I := fun s => Vetted s.service.files) (vetted_perform c k) events ?_
  have hfiles := (Service.start_idle (c := c) (Service.State.fresh clock world)).files
  show Vetted ((Service.start c).after (Service.State.fresh clock world)).files
  rw [hfiles]
  exact .nil

/-! ### Enrolling -/

/-- **Enrolling a lead is refused before anything is done**, as far as clients are told why. -/
theorem enroll_refused {c : Service.Config} {k : Collaborators σ} {id : String} {r : NewEnrollment}
    {s s' : Service.State σ} {f : Fault} (hs : Vetted s.files)
    (hrun : (enroll c k id r).run s = (.error f, s')) (ht : f.isTold = true) :
    s' = s ∧ Refused s id := by
  unfold enroll at hrun
  refine Service.enroll_told (fun w hload => hs.found hload) (Op.Quiet.fault_of_bind ?_ hrun ht) ht
  exact fun p => (orTooDeep_quiet _).bind fun e => (orTooDeep_quiet _).bind fun report => .pure _

/-- Enrolling in a workflow that is no draft does not fail for its definition. -/
theorem enroll_unflawed {c : Service.Config} {k : Collaborators σ} {id : String}
    {r : NewEnrollment} {s : Service.State σ} {w : Workflow.Record} (hs : Vetted s.files)
    (hload : s.files.load s.clock.universal id = .ok (some w)) (hstatus : w.status ≠ .draft)
    (flaw : Workflow.Flaw) : ((enroll c k id r).run s).1 ≠ .error (.flawed flaw) := by
  intro hflawed
  obtain ⟨-, hrefused⟩ := enroll_refused hs (Prod.ext hflawed rfl) rfl
  cases hrefused with
  | missing hnone =>
    rw [hload] at hnone
    cases hnone
  | flawed hload' hline =>
    rw [hload] at hload'
    cases hload'
    obtain ⟨-, -, -, -, -, hfit⟩ := hs.loaded hload
    obtain ⟨chain, hchain⟩ := hfit hstatus
    rw [hchain] at hline
    cases hline

/-- **Only drafts may have flaws.** Whatever happened to a server, every record that can be read from a
file of its store is a draft or can be run, and nobody who enrolls a lead in a workflow that is no draft
is told that its definition is flawed. -/
theorem only_drafts_flawed (c : Service.Config) (k : Collaborators σ) (clock : Moment) (world : σ)
    (events : List Event) :
    let s := (State.opening c clock world).after c k events
    (∀ f ∈ s.service.files, ∀ now x, f.read now = .ok x → x.status ≠ .draft →
      ∃ chain, x.definition.linearize = .ok chain) ∧
    ∀ id w, s.service.files.load s.service.clock.universal id = .ok (some w) → w.status ≠ .draft →
      (∀ r flaw, (ExceptT.run (perform c k (.enroll id r)) s).1 ≠ .error (.flawed flaw)) ∧
      ∀ request r, Call.read request = .ok (.enroll id r) → (serve c k request s).1.status ≠ 400 := by
  intro s
  have hs : Vetted s.service.files := vetted_after c k clock world events
  refine ⟨fun f hf now x hread => hs.fit_of_read hf hread, fun id w hload hstatus => ?_⟩
  have hunflawed : ∀ r flaw,
      ((operationOf c k s.nextId (.enroll id r)).run s.service).1 ≠ .error (.flawed flaw) := by
    intro r flaw hflawed
    exact enroll_unflawed hs hload hstatus flaw (congrArg Prod.fst (run_map_eq_error hflawed))
  refine ⟨fun r flaw hflawed => ?_, fun request r hread hbad => ?_⟩
  · obtain ⟨made, hrun⟩ := run_perform c k (.enroll id r) s
    rw [hrun] at hflawed
    exact hunflawed r flaw hflawed
  · rcases serve_cases c k request s with ⟨refusal, hrefused, -⟩ | ⟨call, made, hcall, heq⟩
    · rw [hread] at hrefused
      cases hrefused
    · rw [hread] at hcall
      cases hcall
      rw [heq] at hbad
      obtain ⟨flaw, hflawed⟩ := Answer.flawed_of_status hbad
      exact hunflawed r flaw hflawed

/-! ### A server to try it on -/

namespace Tour

open Service.Sample (config collaborators)

/-- Nine in the morning of the first of January 2024. -/
def morning : Moment := Moment.ofParts ⟨2024, 1, 1⟩ ⟨9, 0, 0, 0⟩ (some 0)

/-- A request with a document. -/
def asking (method : String) (path : List String) (j : Json) : Request :=
  ⟨method, ⟨path, []⟩, "application/json", j.compact⟩

/-- Makes a workflow that does nothing but start, and is active at once. -/
def making : Request :=
  asking "POST" ["api", "workflows"] (.obj [("name", .str "Tour"), ("status", .str "active"),
    ("definition", .obj [("nodes", .arr [.obj [("id", .str "t"), ("type", .str "manual-trigger")]])])])

/-- The workflow that is made. -/
def tour : Workflow.Record where
  id := "workflow-1"
  name := "Tour"
  description := none
  status := .active
  definition := ⟨[⟨"t", "manual-trigger", .origin, []⟩], [], ⟨none⟩⟩
  version := 1
  createdAt := morning
  updatedAt := morning

/-- A server with this workflow and nothing else. -/
def server : State Unit :=
  ⟨{ Service.State.fresh morning () with files := [.of tour], timers := Timers.stopped.start }, 1⟩

theorem server_made : (State.opening config morning ()).after config collaborators
    [.request making] = server := by
  decide +kernel

/-- Enrolls somebody in it. -/
def enrolling : Request :=
  asking "POST" ["api", "workflows", "workflow-1", "enrollments"]
    (.obj [("lead", .obj [("name", .str "Ada")])])

/-- What is asked for then. -/
def ada : NewEnrollment :=
  ⟨{ Lead.unknown with name := some "Ada" }, Enrollment.liveSource, .none⟩

end Tour

open Service.Sample Tour in
theorem only_drafts_flawed_tour :
    let s := (State.opening config morning ()).after config collaborators [.request making]
    Workflow.File.of tour ∈ s.service.files ∧
      (Workflow.File.of tour).read morning = .ok tour ∧ tour.status ≠ .draft ∧
      (∃ chain, tour.definition.linearize = .ok chain) ∧
      s.service.files.load s.service.clock.universal "workflow-1" = .ok (some tour) ∧
      Call.read enrolling = .ok (.enroll "workflow-1" ada) ∧
      (serve config collaborators enrolling s).1.status ≠ 400 := by
  intro s
  have hs : s = server := server_made
  have hmem : Workflow.File.of tour ∈ s.service.files := by
    rw [hs]
    exact List.mem_singleton.2 rfl
  have hread : (Workflow.File.of tour).read morning = .ok tour := by decide +kernel
  have hactive : tour.status ≠ .draft := by decide
  have hload : s.service.files.load s.service.clock.universal "workflow-1" = .ok (some tour) := by
    rw [hs]
    decide +kernel
  have hcall : Call.read enrolling = .ok (.enroll "workflow-1" ada) := by decide +kernel
  obtain ⟨hfiles, henroll⟩ := only_drafts_flawed config collaborators morning () [.request making]
  exact ⟨hmem, hread, hactive, hfiles _ hmem morning tour hread hactive, hload, hcall,
    (henroll "workflow-1" tour hload hactive).2 enrolling ada hcall⟩

end Api
end Cadence
