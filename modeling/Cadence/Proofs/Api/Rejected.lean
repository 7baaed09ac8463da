/-
# What a rejected request leaves behind

A request that is refused changes nothing, and neither does a call of which clients are told that
something is not there or that a definition cannot be run: whatever a call needs is looked up and
checked before anything is written. Timers apart, there are two exceptions. Advancing an enrollment
stores the news about its lead before the workflow is looked up, so they stay if the workflow is gone. A
poll runs those who are due one after the other and fails at the first whose workflow is gone, when those
before it have been run (`Rejected`, `rejected_untouched`).

Key definitions: `Rejected`.
Key theorems: `advance_rejected`, `wakeDue_rejected`, `operationOf_rejected`, `rejected_untouched`.
-/
import Cadence.Proofs.Api.Drafts

namespace Cadence
namespace Api

open Service (Op Untouched Orphaned Found fireAll run_bind_ok run_bind_error run_bind_eq_error)
open Time
open Workflow (Vetted)

variable {σ α β : Type} {c : Service.Config} {k : Collaborators σ}

/-- How a call that is not performed leaves the service, if clients are told why. -/
inductive Rejected (c : Service.Config) (k : Collaborators σ) (s s' : Service.State σ) : Call → Prop
  /-- Only timers may differ. -/
  | untouched {call : Call} : Untouched s s' → Rejected c k s s' call
  /-- The workflow of an enrollment that is advanced is not found, and its lead has got the news. -/
  | informed {id : String} {r : Advancement} {news : Lead} {row : Enrollment.Row} {e : Enrollment} :
      r.lead = some news → Found s id (some news) row e →
      s.files.load s.clock.universal e.workflowId = .ok none → s' = Service.told id (some news) e s →
      Rejected c k s s' (.advance id r)
  /-- The workflow of an enrollment that is due is not found, and those due before have been run. -/
  | polled {woken rest : List String} {id : String} {s₁ : Service.State σ} : woken ≠ [] →
      s.rows.dueAt s.clock = .ok (woken ++ id :: rest) → (fireAll c k woken).run s = (.ok (), s₁) →
      Orphaned s₁ id → s' = { s₁ with timers := s₁.timers.remove id } → Rejected c k s s' .wakeDue

/-! ### Calls that are careful -/

theorem careful_map {op : Op σ α} (h : op.Careful) (g : α → β) : (g <$> op).Careful := by
  intro s f s' hrun ht
  have hs : op.after s = s' := (after_map g op s).symm.trans (congrArg Prod.snd hrun)
  rw [← hs]
  exact h s f _ (run_map_eq_error (congrArg Prod.fst hrun)) ht

theorem saved_careful (r : Workflow.Record) (g : Workflow.Record → α) :
    (do return g (← Service.saveWorkflow r) : Op σ α).Careful :=
  (Service.saveWorkflow_careful r).bind_quiet fun _ => .pure _

theorem makeWorkflow_careful (newId : String) (r : NewWorkflow) :
    (makeWorkflow newId r : Op σ Json).Careful :=
  Service.universalNow_reads.bind_careful fun _ => saved_careful _ _

theorem changeWorkflow_careful (id : String) (r : WorkflowChange) :
    (changeWorkflow id r : Op σ Json).Careful :=
  (Service.latestWorkflow_reads id).bind_careful fun _ =>
    (requireRunnable_reads _ _).bind_careful fun _ => saved_careful _ _

/-- Where there are no versions to delete, the files stay as they are. -/
theorem delete_nothing {files files' : Workflow.Files} {id : String}
    (h : files.delete id = .ok (false, files')) : files' = files := by
  obtain ⟨found, -, h⟩ := bind_eq_ok.1 h
  obtain ⟨hnone, rfl⟩ := Prod.mk.inj (Except.ok.inj h)
  have hempty : found = [] := by simpa using hnone
  rw [hempty]
  exact List.filter_eq_self.2 fun f _ => rfl

theorem dropWorkflow_careful (id : String) : (dropWorkflow id : Op σ Json).Careful := by
  intro s f s' hrun _
  have hdrop := Service.run_dropWorkflow id s
  unfold dropWorkflow at hrun
  rcases hdelete : s.files.delete id with e | ⟨found, files⟩ <;> rw [hdelete] at hdrop
  · rw [run_bind_error hdrop] at hrun
    cases hrun
    exact .refl s
  · rw [run_bind_ok hdrop] at hrun
    cases found with
    | true => cases hrun
    | false =>
      cases hrun
      rw [delete_nothing hdelete]
      exact .refl s

theorem dropEnrollment_careful (id : String) : (dropEnrollment id : Op σ Json).Careful := by
  intro s f s' hrun _
  have hdelete : (Service.delete id : Op σ Bool).run s = (.ok (s.rows.find? id).isSome,
      { s with timers := s.timers.remove id, rows := s.rows.filter (·.id ≠ id) }) := rfl
  unfold dropEnrollment at hrun
  rw [run_bind_ok hdelete] at hrun
  cases hfound : (s.rows.find? id).isSome with
  | true =>
    rw [hfound] at hrun
    cases hrun
  | false =>
    have hnone : List.find? (fun r : Enrollment.Row => r.id = id) s.rows = none :=
      Option.not_isSome_iff_eq_none.1 (Bool.eq_false_iff.1 hfound)
    have hrows : s.rows.filter (·.id ≠ id) = s.rows := by
      refine List.filter_eq_self.2 fun r hr => ?_
      simpa using List.find?_eq_none.1 hnone r hr
    rw [hfound, hrows] at hrun
    cases hrun
    exact ⟨s.timers.remove id, rfl⟩

theorem tryOut_careful (id : String) (r : Trial) : (tryOut c k id r).Careful := by
  refine (Service.latestWorkflow_reads id).bind_careful fun w =>
    Service.universalNow_reads.bind_careful fun now => Op.Quiet.careful ?_
  refine (Service.carryOut_quiet k _).bind_of fun made s s' hmade => ?_
  exact (Op.Quiet.orFault (Service.report_untold hmade)).bind fun report =>
    (orTooDeep_quiet _).bind fun _ => (Op.Quiet.orFault (Report.markdown_untold _ _)).bind fun _ =>
      .pure _

/-! ### Calls that are not -/

/-- What is left of an advance that is rejected. -/
theorem advance_rejected {id : String} {r : Advancement} {s s' : Service.State σ} {f : Fault}
    (hrun : (advance c k id r).run s = (.error f, s')) (ht : f.isTold = true) :
    Rejected c k s s' (.advance id r) := by
  unfold advance at hrun
  rcases run_bind_eq_error hrun with hfirst | ⟨report, s₁, hfirst, hrest⟩
  · rcases Service.advance_told hfirst ht with ⟨-, -, rfl⟩ | ⟨row, e, hfound, hload, -, rfl⟩
    · exact .untouched (.refl _)
    · cases hlead : r.lead with
      | none =>
        rw [Service.told_none]
        exact .untouched (.refl s)
      | some news =>
        rw [hlead] at hfound
        exact .informed hlead hfound hload rfl
  · -- the enrollment is still there, so it can be shown
    have hthere := Service.advance_present (c := c) (k := k)
      (i := ⟨id, r.ignoreSendWindow, r.lead, s⟩) (congrArg Prod.fst hfirst)
    have hafter : (⟨id, r.ignoreSendWindow, r.lead, s⟩ : Service.Invocation σ).after c k = s₁ :=
      congrArg Prod.snd hfirst
    rw [hafter] at hthere
    have hshow := Op.Quiet.fault_of_bind
      (fun snapshot => (orTooDeep_quiet _).bind fun e => (orTooDeep_quiet _).bind fun report => .pure _)
      hrest ht
    rw [Service.describe_told hshow ht] at hthere
    cases hthere

/-- What is left of a poll that is rejected. -/
theorem wakeDue_rejected {s s' : Service.State σ} {f : Fault}
    (hrun : (wakeDue c k).run s = (.error f, s')) (ht : f.isTold = true) :
    Rejected c k s s' .wakeDue := by
  unfold wakeDue at hrun
  rw [run_bind_ok (Service.run_get s)] at hrun
  obtain ⟨woken, id, rest, s₁, hdue, hwoken, horphan, hs⟩ :=
    Service.wakeDue_told (Op.Quiet.fault_of_bind (fun _ => .pure _) hrun ht) ht
  cases woken with
  | nil =>
    cases hwoken
    rw [hs]
    exact .untouched ⟨s.timers.remove id, rfl⟩
  | cons first others => exact .polled (List.cons_ne_nil _ _) hdue hwoken horphan hs

/-- **What is left of a call that is rejected**, in a vetted store. -/
theorem operationOf_rejected {newId : String} (call : Call) {s : Service.State σ} {f : Fault}
    (hs : Vetted s.files) (hresult : ((operationOf c k newId call).run s).1 = .error f)
    (ht : f.isTold = true) : Rejected c k s ((operationOf c k newId call).after s) call := by
  have hcareful : ∀ {op : Op σ Content}, op.Careful → (op.run s).1 = .error f →
      Untouched s (op.after s) := fun h hop => h s f _ (Prod.ext hop rfl) ht
  by_cases hasks : call.asks = true
  · exact .untouched (hcareful (operationOf_reads c k newId hasks).careful hresult)
  cases call with
  | makeWorkflow r =>
    exact .untouched (hcareful ((requireRunnable_reads _ _).bind_careful fun _ =>
      careful_map (makeWorkflow_careful newId r) _) hresult)
  | changeWorkflow id r =>
    exact .untouched (hcareful (careful_map (changeWorkflow_careful id r) _) hresult)
  | dropWorkflow id =>
    exact .untouched (hcareful (careful_map (dropWorkflow_careful id) _) hresult)
  | tryOut id r => exact .untouched (hcareful (careful_map (tryOut_careful id r) _) hresult)
  | dropEnrollment id =>
    exact .untouched (hcareful (careful_map (dropEnrollment_careful id) _) hresult)
  | enroll id r =>
    have hsame := (enroll_refused hs (run_map_eq_error hresult) ht).1
    show Rejected c k s ((Content.document <$> enroll c k id r).after s) _
    rw [after_map, hsame]
    exact .untouched (.refl s)
  | wakeDue =>
    show Rejected c k s ((Content.document <$> wakeDue c k).after s) _
    rw [after_map]
    exact wakeDue_rejected (run_map_eq_error hresult) ht
  | advance id r =>
    show Rejected c k s ((Content.document <$> advance c k id r).after s) _
    rw [after_map]
    exact advance_rejected (run_map_eq_error hresult) ht
  | health | validate | allWorkflows | showWorkflow | enrollmentsOf | showEnrollment | report =>
    exact absurd rfl hasks

/-- **What a rejected request leaves behind.** Whatever happened to a server, a request that is answered
as bad, as one for something that is not there, or as one that cannot be processed, is refused, and then
the server stays as it is, or it is a call that leaves all workflows, all enrollments with their steps,
the clock and the collaborators as they are. The exceptions are news about a lead whose workflow is gone,
and a poll that ends behind others. -/
theorem rejected_untouched (c : Service.Config) (k : Collaborators σ) (clock : Moment) (world : σ)
    (events : List Event) (request : Request) :
    let s := (State.opening c clock world).after c k events
    (serve c k request s).1.status ∈ [400, 404, 422] →
      (serve c k request s).2 = s ∨ ∃ call, Call.read request = .ok call ∧
        Rejected c k s.service (serve c k request s).2.service call := by
  intro s hstatus
  have hs : Vetted s.service.files := vetted_after c k clock world events
  rcases serve_cases c k request s with ⟨refusal, -, heq⟩ | ⟨call, made, hread, heq⟩ <;>
    rw [heq] at hstatus ⊢
  · exact Or.inl rfl
  · have hne : (Answer.ofResult ((operationOf c k s.nextId call).run s.service).1).status ≠ 200 := by
      intro hok
      rw [hok] at hstatus
      exact absurd hstatus (by decide)
    have hne' : (Answer.ofResult ((operationOf c k s.nextId call).run s.service).1).status ≠ 500 := by
      intro hbroken
      rw [hbroken] at hstatus
      exact absurd hstatus (by decide)
    obtain ⟨f, hresult, ht⟩ := Answer.isTold_of_status hne hne'
    exact Or.inr ⟨call, hread, operationOf_rejected call hs hresult ht⟩

namespace Tour

/-- Asks for a workflow that is not there. -/
def missing : Request := ⟨"GET", ⟨["api", "workflows", "workflow-2"], []⟩, "", ""⟩

/-- Deletes the workflow. -/
def dropping : Request := ⟨"DELETE", ⟨["api", "workflows", "workflow-1"], []⟩, "", ""⟩

/-- Advances who was enrolled, with another name. -/
def correcting : Request :=
  asking "POST" ["api", "enrollments", "enrollment-1", "advance"]
    (.obj [("lead", .obj [("name", .str "Grace")])])

end Tour

open Service.Sample Tour in
theorem rejected_untouched_tour :
    let s := (State.opening config morning ()).after config collaborators [.request making]
    (serve config collaborators missing s).1.status ∈ [400, 404, 422] ∧
      ((serve config collaborators missing s).2 = s ∨ ∃ call, Call.read missing = .ok call ∧
        Rejected config collaborators s.service (serve config collaborators missing s).2.service
          call) := by
  intro s
  have hstatus : (serve config collaborators missing s).1.status ∈ [400, 404, 422] := by
    have hs : s = server := server_made
    rw [hs]
    decide +kernel
  exact ⟨hstatus,
    rejected_untouched config collaborators morning () [.request making] missing hstatus⟩

open Service.Sample Tour in
/-- Somebody who was enrolled in a workflow that is deleted since then has got another name, although
the request that brought it was rejected. -/
theorem news_outlive_rejection :
    let s := (State.opening config morning ()).after config collaborators
      [.request making, .request enrolling, .request dropping]
    let out := serve config collaborators correcting s
    out.1 = .detail 404 "Workflow not found" ∧
      s.service.rows.map (·.lead) = [[("name", .str "Ada")]] ∧
      out.2.service.rows.map (·.lead) = [[("name", .str "Grace")]] := by
  decide +kernel

end Api
end Cadence
