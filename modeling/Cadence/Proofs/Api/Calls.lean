/-
# What calls come to

A request is refused, and then nothing is done, or it is a call. A call comes to an operation of the
service, `operationOf`, whatever else the server does to give new workflows their ids (`run_perform`). So
the answer to a request and the service behind it are those of an operation (`serve_cases`), and no
other proof has to look into the server.

Between requests time passes, timers ring and the server is started again. `State.after` is a server
after such events, and what every event keeps, they all keep (`State.after_induction`).

Key definitions: `operationOf`, `Event`, `State.opening`, `State.after`.
Key theorems: `run_perform`, `serve_cases`, `isTold_of_status`.
-/
import Cadence.Api.Server
import Cadence.Proofs.Service.Command
import Cadence.Proofs.Service.Told

namespace Cadence
namespace Api

open Service (Op)
open Time

variable {σ α β : Type}

/-! ### Operations with a value made of theirs -/

theorem run_map (g : α → β) (op : Op σ α) (s : Service.State σ) :
    (g <$> op).run s = ((op.run s).1.map g, op.after s) := by
  rw [map_eq_pure_bind, Service.run_bind]
  cases (op.run s).1 <;> rfl

theorem after_map (g : α → β) (op : Op σ α) (s : Service.State σ) :
    (g <$> op).after s = op.after s := congrArg Prod.snd (run_map g op s)

/-- A fault is one of the operation whose value would have been used. -/
theorem run_map_eq_error {g : α → β} {op : Op σ α} {s : Service.State σ} {f : Fault}
    (h : ((g <$> op).run s).1 = .error f) : op.run s = (.error f, op.after s) := by
  rw [run_map] at h
  cases hop : (op.run s).1 with
  | ok a =>
    rw [hop] at h
    cases h
  | error f' =>
    rw [hop] at h
    cases h
    exact Prod.ext hop rfl

/-! ### Calls as operations -/

/-- The operation of the service that a call comes to. A new workflow gets the id that is given. -/
def operationOf (c : Service.Config) (k : Collaborators σ) (newId : String) : Call → Op σ Content
  | .health => .document <$> health
  | .validate definition => .document <$> validate definition
  | .makeWorkflow r => do
    requireRunnable r.status r.definition
    .document <$> makeWorkflow newId r
  | .changeWorkflow id r => .document <$> changeWorkflow id r
  | .allWorkflows => .document <$> allWorkflows
  | .showWorkflow id => (.document ∘ Workflow.Record.toJson) <$> Service.latestWorkflow id
  | .dropWorkflow id => .document <$> dropWorkflow id
  | .tryOut id r => .document <$> tryOut c k id r
  | .enroll id r => .document <$> enroll c k id r
  | .enrollmentsOf id limit => .document <$> enrollmentsOf id limit
  | .wakeDue => .document <$> wakeDue c k
  | .showEnrollment id => .document <$> showEnrollment id
  | .report id => .text <$> Service.reportText id
  | .advance id r => .document <$> advance c k id r
  | .dropEnrollment id => .document <$> dropEnrollment id

/-- The id that the next workflow gets. -/
def State.nextId (s : State σ) : String := "workflow-" ++ toString (s.made + 1)

/-- Work and work that goes on with its value: a fault of the first ends both. -/
theorem run_work_bind (x : Work σ α) (f : α → Work σ β) (s : State σ) :
    ExceptT.run (x >>= f) s =
      match ExceptT.run x s with
      | (.ok a, s') => ExceptT.run (f a) s'
      | (.error e, s') => (.error e, s') := by
  show ExceptT.run (ExceptT.bind x f) s = _
  unfold ExceptT.bind ExceptT.mk ExceptT.run
  show (StateT.bind x (ExceptT.bindCont f) : StateT (State σ) Id (Except Fault β)) s = _
  unfold StateT.bind
  rcases hx : x s with ⟨_ | _, s'⟩ <;> rfl

theorem run_onService (g : α → β) (op : Op σ α) (s : State σ) :
    ExceptT.run (g <$> onService op) s =
      (((g <$> op).run s.service).1, { s with service := (g <$> op).after s.service }) := by
  have hop : ExceptT.run (onService op) s =
      ((op.run s.service).1, { s with service := op.after s.service }) := rfl
  rw [map_eq_pure_bind, run_work_bind, hop, run_map, after_map]
  cases (op.run s.service).1 <;> rfl

theorem requireRunnable_reads (status : Workflow.Status) (d : Workflow.Definition) :
    (requireRunnable status d : Op σ Unit).Reads := by
  unfold requireRunnable
  split
  · exact (Service.Op.Reads.orFault _).bind fun _ => .pure ()
  · exact .pure ()

/-- **A call comes to an operation of the service.** The server itself only counts the workflows that
it has made. -/
theorem run_perform (c : Service.Config) (k : Collaborators σ) (call : Call) (s : State σ) :
    ∃ made, ExceptT.run (perform c k call) s =
      (((operationOf c k s.nextId call).run s.service).1,
        ⟨(operationOf c k s.nextId call).after s.service, made⟩) := by
  cases call with
  | makeWorkflow r =>
    have hcheck : ExceptT.run (onService (requireRunnable r.status r.definition)) s =
        (((requireRunnable r.status r.definition).run s.service).1, s) := by
      have hreads := requireRunnable_reads (σ := σ) r.status r.definition s.service
      show (((requireRunnable r.status r.definition).run s.service).1,
        { s with service := (requireRunnable r.status r.definition).after s.service }) = _
      rw [hreads]
    unfold perform operationOf
    rw [run_work_bind, hcheck, Service.run_bind, Service.after_bind,
      requireRunnable_reads r.status r.definition s.service]
    cases ((requireRunnable r.status r.definition : Op σ Unit).run s.service).1 with
    | error f => exact ⟨s.made, rfl⟩
    | ok u =>
      refine ⟨s.made + 1, ?_⟩
      dsimp only
      rw [run_work_bind]
      exact run_onService _ _ { s with made := s.made + 1 }
  | _ => exact ⟨s.made, run_onService _ _ s⟩

/-! ### Calls that only ask -/

theorem reads_map {op : Op σ α} (h : op.Reads) (g : α → β) : (g <$> op).Reads := by
  intro s
  rw [after_map]
  exact h s

theorem orTooDeep_reads (j : Option Json) : (orTooDeep j : Op σ Json).Reads := .orFault _

theorem orTooDeep_quiet (j : Option Json) : (orTooDeep j : Op σ Json).Quiet :=
  .orFault (ofWritten_untold j)

theorem mapM_reads {f : α → Op σ β} (hf : ∀ a, (f a).Reads) : ∀ l : List α, (l.mapM f).Reads
  | [] => by
    rw [List.mapM_nil]
    exact .pure []
  | a :: l => by
    rw [List.mapM_cons]
    exact (hf a).bind fun b => (mapM_reads hf l).bind fun bs => .pure (b :: bs)

/-- Whether a call only asks for something. -/
def Call.asks : Call → Bool
  | .health | .validate _ | .allWorkflows | .showWorkflow _ | .enrollmentsOf .. | .showEnrollment _
  | .report _ => true
  | _ => false

/-- **A call that only asks for something changes nothing.** -/
theorem operationOf_reads (c : Service.Config) (k : Collaborators σ) (newId : String) {call : Call}
    (h : call.asks = true) : (operationOf c k newId call).Reads := by
  cases call with
  | health => exact reads_map (Op.Reads.get.bind fun s => .pure _) _
  | validate definition => exact reads_map ((Op.Reads.orFault _).bind fun chain => .pure _) _
  | allWorkflows =>
    exact reads_map (Op.Reads.get.bind fun s => (Op.Reads.orFault _).bind fun list => .pure _) _
  | showWorkflow id => exact reads_map (Service.latestWorkflow_reads id) _
  | enrollmentsOf id limit =>
    exact reads_map ((Service.latestWorkflow_reads id).bind fun w => Op.Reads.get.bind fun s =>
      (Op.Reads.orFault _).bind fun list =>
        (mapM_reads (fun e => orTooDeep_reads _) list).bind fun documents => .pure _) _
  | showEnrollment id =>
    exact reads_map ((Service.describe_reads id).bind fun snapshot => orTooDeep_reads _) _
  | report id =>
    refine reads_map ((Service.describe_reads id).bind fun snapshot => Op.Reads.get.bind fun s =>
      (Op.Reads.orFault _).bind fun w => ?_) _
    cases w <;> exact .pure _
  | makeWorkflow | changeWorkflow | dropWorkflow | tryOut | enroll | wakeDue | advance
  | dropEnrollment => cases h

/-! ### Answers -/

/-- The answer to a call that has been performed, or not. -/
def Answer.ofResult : Except Fault Content → Answer
  | .ok content => .ofContent content
  | .error f => .ofFault f

/-- **A request is refused, or it is a call**, and then the answer and the service behind it are those
of an operation. -/
theorem serve_cases (c : Service.Config) (k : Collaborators σ) (r : Request) (s : State σ) :
    (∃ refusal, Call.read r = .error refusal ∧ serve c k r s = (.ofRefusal refusal, s)) ∨
      ∃ call made, Call.read r = .ok call ∧ serve c k r s =
        (.ofResult ((operationOf c k s.nextId call).run s.service).1,
          ⟨(operationOf c k s.nextId call).after s.service, made⟩) := by
  unfold serve
  cases hread : Call.read r with
  | error refusal => exact Or.inl ⟨refusal, rfl, rfl⟩
  | ok call =>
    obtain ⟨made, hrun⟩ := run_perform c k call s
    refine Or.inr ⟨call, made, rfl, ?_⟩
    dsimp only
    rw [hrun]
    cases ((operationOf c k s.nextId call).run s.service).1 <;> rfl

theorem Answer.status_sent (status : Nat) (j : Json) :
    (sent status j).status = status ∨ (sent status j).status = 500 := by
  unfold sent
  split
  · exact Or.inl rfl
  · exact Or.inr rfl

/-- An answer that is neither a success nor an internal error comes of a fault that clients are told
of. -/
theorem Answer.isTold_of_status {result : Except Fault Content}
    (h : (ofResult result).status ≠ 200) (h' : (ofResult result).status ≠ 500) :
    ∃ f, result = .error f ∧ f.isTold = true := by
  cases result with
  | ok content =>
    cases content with
    | document j => rcases status_sent 200 j with heq | heq <;> contradiction
    | text s => exact absurd rfl h
  | error f =>
    refine ⟨f, rfl, ?_⟩
    cases f <;> first | rfl | exact absurd rfl h'

/-- A bad request that is a call has a definition that cannot be run. -/
theorem Answer.flawed_of_status {result : Except Fault Content} (h : (ofResult result).status = 400) :
    ∃ flaw, result = .error (.flawed flaw) := by
  cases result with
  | ok content =>
    cases content with
    | document j =>
      rcases status_sent 200 j with heq | heq <;> exact absurd (heq.symm.trans h) (by decide)
    | text s => cases h
  | error f =>
    cases f with
    | flawed flaw => exact ⟨flaw, rfl⟩
    | _ => cases h

/-! ### Events -/

/-- What happens to a server: a request comes, time passes, timers ring, or it is started again. -/
inductive Event where
  | request (r : Request)
  | clock (now : Moment)
  | tick
  | restart
  deriving Repr, DecidableEq, Inhabited

/-- The server after an event. -/
def Event.perform (c : Service.Config) (k : Collaborators σ) (event : Event) (s : State σ) :
    State σ :=
  match event with
  | .request r => (serve c k r s).2
  | .clock now => { s with service := { s.service with clock := now } }
  | .tick => { s with service := (Service.tick c k).after s.service }
  | .restart =>
    { s with service := (Service.start c).after ((Service.stop : Op σ Unit).after s.service) }

/-- A server at the start of its work. -/
def State.opening (c : Service.Config) (clock : Moment) (world : σ) : State σ :=
  ⟨(Service.start c).after (.fresh clock world), 0⟩

/-- The server after events, in order. -/
def State.after (c : Service.Config) (k : Collaborators σ) (events : List Event) (s : State σ) :
    State σ :=
  events.foldl (fun s event => event.perform c k s) s

/-- **What every event keeps, events keep.** -/
theorem State.after_induction {c : Service.Config} {k : Collaborators σ} {I : State σ → Prop}
    (hstep : ∀ (event : Event) (s : State σ), I s → I (event.perform c k s)) :
    ∀ (events : List Event) {s : State σ}, I s → I (s.after c k events)
  | [], _, hs => hs
  | event :: events, s, hs => State.after_induction hstep events (hstep event s hs)

end Api
end Cadence
