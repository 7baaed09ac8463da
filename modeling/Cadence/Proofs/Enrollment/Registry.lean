/-
# The store of enrollments is a map

A registry maps ids to enrollments. Whatever a store of enrollments is asked, and in whatever order,
it answers as a registry does that is asked the same (`serves_as_registry`): an enrollment is got as
it was made, with the steps of every recorded run behind those that it had and with the lead that was
set last. What fails leaves the store as it was, no request changes what is got under another id, and
an enrollment that is made again after it was deleted starts with the steps it is made with.

This is proved for the rows and for the two tables of the database, which mirror them. Leads and
overrides have whole texts, and times are valid and without zone or at whole minutes from universal
time: others do not come back from their texts as they were.

Key definitions: `Store`, `Request`, `Store.serveAll`, `Registry`, `Keeps`, `Holds`.
Key theorems: `Simulates.serveAll`, `Simulates.holds`, `rows_simulate`, `tables_simulate`,
`serves_as_registry`.
-/
import Cadence.Proofs.Enrollment.Tables

namespace Cadence
namespace Enrollment

open Time

/-! ### Stores and what they are asked -/

/-- What can be done with a store of enrollments. -/
structure Store (σ : Type) where
  create : σ → Enrollment → Except Fault σ
  recordRun : σ → String → List Step → String → Option Moment → Option Moment → Except Fault σ
  setLead : σ → String → Lead → Bool × σ
  delete : σ → String → Bool × σ
  get : σ → String → Except Fault (Option Enrollment)

/-- What a store is asked to do. -/
inductive Request where
  | create (e : Enrollment)
  | recordRun (id : String) (steps : List Step) (status : String)
      (completedAt resumeAt : Option Moment)
  | setLead (id : String) (lead : Lead)
  | delete (id : String)
  | get (id : String)

/-- What a store answers. -/
inductive Answer where
  | failed (fault : Fault)
  | done
  | existed (known : Bool)
  | found (e : Option Enrollment)
  deriving DecidableEq

/-- Requests whose enrollments come back as they were given. -/
def Request.IsSound : Request → Prop
  | .create e => Storable e
  | .recordRun _ steps _ completedAt resumeAt => (∀ s ∈ steps, Readable s.createdAt) ∧
      (∀ m ∈ completedAt, Readable m) ∧ ∀ m ∈ resumeAt, Readable m
  | .setLead _ lead => lead.IsWhole
  | .delete _ | .get _ => True

namespace Store

variable {σ : Type} (S : Store σ)

/-- The answer to a change, and the store after it: as it was, if the change failed. -/
def settled (s : σ) : Except Fault σ → Answer × σ
  | .ok s' => (.done, s')
  | .error f => (.failed f, s)

/-- The answer to a request, and the store after it. -/
def serve (s : σ) : Request → Answer × σ
  | .create e => settled s (S.create s e)
  | .recordRun id steps status completedAt resumeAt =>
    settled s (S.recordRun s id steps status completedAt resumeAt)
  | .setLead id lead => (.existed (S.setLead s id lead).1, (S.setLead s id lead).2)
  | .delete id => (.existed (S.delete s id).1, (S.delete s id).2)
  | .get id =>
    match S.get s id with
    | .ok e => (.found e, s)
    | .error f => (.failed f, s)

/-- The answers to requests, in order, and the store after them. -/
def serveAll (s : σ) : List Request → List Answer × σ
  | [] => ([], s)
  | request :: requests =>
    let rest := serveAll (S.serve s request).2 requests
    ((S.serve s request).1 :: rest.1, rest.2)

end Store

/-- The rows as a store. -/
def Rows.store : Store Rows :=
  ⟨Rows.create, Rows.recordRun, Rows.setLead, Rows.delete, Rows.get⟩

/-- The tables as a store. -/
def Tables.store : Store Tables :=
  ⟨Tables.create, Tables.recordRun, Tables.setLead, Tables.delete, Tables.get⟩

/-! ### Registries -/

/-- The enrollments by their ids. -/
def Registry := String → Option Enrollment

namespace Registry

variable (A : Registry)

/-- The registry without enrollments. -/
def empty : Registry := fun _ => none

/-- The registry with another entry for one id. -/
def set (id : String) (entry : Option Enrollment) : Registry :=
  fun id' => if id' = id then entry else A id'

/-- Adds an enrollment, whose id must be new. -/
def create (e : Enrollment) : Except Fault Registry :=
  if (A e.id).isSome then .error .constraint else .ok (A.set e.id (some e))

/-- Adds a run to an enrollment, which must be there. -/
def recordRun (id : String) (steps : List Step) (status : String)
    (completedAt resumeAt : Option Moment) : Except Fault Registry :=
  match A id with
  | none => .error (.noEntry id)
  | some e =>
    match Status.names.lookup status with
    | none => .error .constraint
    | some status => .ok (A.set id (some (e.withRun steps status completedAt resumeAt)))

/-- Replaces the lead of an enrollment, if it is there. -/
def setLead (id : String) (lead : Lead) : Bool × Registry :=
  ((A id).isSome, A.set id ((A id).map fun e => { e with lead }))

/-- Removes an enrollment, if it is there. -/
def delete (id : String) : Bool × Registry := ((A id).isSome, A.set id none)

/-- A registry as a store. -/
def store : Store Registry := ⟨create, recordRun, setLead, delete, fun A id => .ok (A id)⟩

@[simp]
theorem set_self (id : String) (entry : Option Enrollment) : A.set id entry id = entry :=
  if_pos rfl

theorem set_of_ne {id id' : String} (h : id' ≠ id) (entry : Option Enrollment) :
    A.set id entry id' = A id' := if_neg h

end Registry

/-! ### Stores that simulate a registry -/

/-- Every operation of a store answers as it does on a registry that stands for the store, and
leaves a store for which the registry stands that it leaves. -/
structure Simulates {σ : Type} (S : Store σ) (R : σ → Registry → Prop) : Prop where
  create : ∀ {s A e}, R s A → Storable e → Matches R (S.create s e) (A.create e)
  recordRun : ∀ {s A} id {steps} status {completedAt resumeAt}, R s A →
    (Request.recordRun id steps status completedAt resumeAt).IsSound →
    Matches R (S.recordRun s id steps status completedAt resumeAt)
      (A.recordRun id steps status completedAt resumeAt)
  setLead : ∀ {s A} id {lead : Lead}, R s A → lead.IsWhole →
    (S.setLead s id lead).1 = (A.setLead id lead).1 ∧
      R (S.setLead s id lead).2 (A.setLead id lead).2
  delete : ∀ {s A} id, R s A →
    (S.delete s id).1 = (A.delete id).1 ∧ R (S.delete s id).2 (A.delete id).2
  get : ∀ {s A} id, R s A → S.get s id = .ok (A id)

/-- What a store does of which a registry says what is in it. -/
structure Holds {σ : Type} (S : Store σ) (s : σ) (A : Registry) : Prop where
  got : ∀ id, S.get s id = .ok (A id)
  refused : ∀ request f, (S.serve s request).1 = .failed f → (S.serve s request).2 = s
  existing : ∀ e, (A e.id).isSome = true → Storable e → S.create s e = .error .constraint
  missing : ∀ id steps status completedAt resumeAt, A id = none →
    (Request.recordRun id steps status completedAt resumeAt).IsSound →
    S.recordRun s id steps status completedAt resumeAt = .error (.noEntry id)
  unnamed : ∀ id e steps status completedAt resumeAt, A id = some e →
    Status.names.lookup status = none →
    (Request.recordRun id steps status completedAt resumeAt).IsSound →
    S.recordRun s id steps status completedAt resumeAt = .error .constraint
  created : ∀ e, A e.id = none → Storable e → ∃ s', S.create s e = .ok s' ∧
    ∀ id, S.get s' id = .ok (if id = e.id then some e else A id)
  recorded : ∀ id e steps (status : Status) completedAt resumeAt, A id = some e →
    (Request.recordRun id steps status.name completedAt resumeAt).IsSound →
    ∃ s', S.recordRun s id steps status.name completedAt resumeAt = .ok s' ∧
      ∀ id', S.get s' id' = .ok
        (if id' = id then some (e.withRun steps status completedAt resumeAt) else A id')
  updated : ∀ id (lead : Lead), lead.IsWhole → (S.setLead s id lead).1 = (A id).isSome ∧
    ∀ id', S.get (S.setLead s id lead).2 id' = .ok
      (if id' = id then (A id).map fun e => { e with lead } else A id')
  deleted : ∀ id, (S.delete s id).1 = (A id).isSome ∧
    ∀ id', S.get (S.delete s id).2 id' = .ok (if id' = id then none else A id')

theorem lookup_name (status : Status) : Status.names.lookup status.name = some status := by
  cases status <;> rfl

namespace Simulates

variable {σ : Type} {S : Store σ} {R : σ → Registry → Prop} {s : σ} {A : Registry}

theorem settled {x : Except Fault σ} {y : Except Fault Registry} (h : Matches R x y) (hR : R s A) :
    (Store.settled s x).1 = (Store.settled A y).1 ∧
      R (Store.settled s x).2 (Store.settled A y).2 := by
  cases x with
  | ok s' =>
    cases y with
    | ok A' => exact ⟨rfl, h⟩
    | error f => exact False.elim h
  | error f =>
    cases y with
    | ok A' => exact False.elim h
    | error f' => exact ⟨congrArg Answer.failed h, hR⟩

/-- **One request** is answered alike, and the stores it leaves stand for each other. -/
theorem serve (h : Simulates S R) (hR : R s A) {request : Request} (hsound : request.IsSound) :
    (S.serve s request).1 = (Registry.store.serve A request).1 ∧
      R (S.serve s request).2 (Registry.store.serve A request).2 := by
  cases request with
  | create e => exact settled (h.create hR hsound) hR
  | recordRun id steps status completedAt resumeAt =>
    exact settled (h.recordRun id status hR hsound) hR
  | setLead id lead =>
    obtain ⟨hanswer, hleft⟩ := h.setLead id hR hsound
    exact ⟨congrArg Answer.existed hanswer, hleft⟩
  | delete id =>
    obtain ⟨hanswer, hleft⟩ := h.delete id hR
    exact ⟨congrArg Answer.existed hanswer, hleft⟩
  | get id =>
    have hgot : S.serve s (.get id) = (.found (A id), s) := by
      simp only [Store.serve, h.get id hR]
    rw [hgot]
    exact ⟨rfl, hR⟩

/-- **Any requests** are answered alike. -/
theorem serveAll (h : Simulates S R) : ∀ {requests : List Request} {s : σ} {A : Registry}, R s A →
    (∀ request ∈ requests, request.IsSound) →
    (S.serveAll s requests).1 = (Registry.store.serveAll A requests).1 ∧
      R (S.serveAll s requests).2 (Registry.store.serveAll A requests).2
  | [], _, _, hR, _ => ⟨rfl, hR⟩
  | request :: requests, s, A, hR, hsound => by
    rw [List.forall_mem_cons] at hsound
    obtain ⟨hanswer, hleft⟩ := h.serve hR hsound.1
    obtain ⟨hanswers, hlast⟩ := h.serveAll hleft hsound.2
    refine ⟨?_, hlast⟩
    unfold Store.serveAll
    dsimp only
    rw [hanswer, hanswers]

theorem refused (S : Store σ) {request : Request} {f : Fault}
    (h : (S.serve s request).1 = .failed f) : (S.serve s request).2 = s := by
  have hsettled : ∀ x : Except Fault σ, (Store.settled s x).1 = .failed f →
      (Store.settled s x).2 = s := by
    intro x hx
    cases x with
    | ok s' => cases hx
    | error f' => rfl
  cases request with
  | create e => exact hsettled _ h
  | recordRun id steps status completedAt resumeAt => exact hsettled _ h
  | setLead id lead => cases h
  | delete id => cases h
  | get id =>
    unfold Store.serve
    dsimp only
    split <;> rfl

theorem error_of {x : Except Fault σ} {f : Fault} (h : Matches R x (.error f)) : x = .error f := by
  cases x with
  | ok s' => exact False.elim h
  | error f' => exact congrArg Except.error h

theorem ok_of {x : Except Fault σ} {A' : Registry} (h : Matches R x (.ok A')) :
    ∃ s', x = .ok s' ∧ R s' A' := by
  cases x with
  | ok s' => exact ⟨s', rfl, h⟩
  | error f' => exact False.elim h

/-- A store that simulates a registry does what the registry says. -/
theorem holds (h : Simulates S R) (hR : R s A) : Holds S s A where
  got id := h.get id hR
  refused _ _ := refused S
  existing e hsome he := by
    have hmatch := h.create hR he
    unfold Registry.create at hmatch
    rw [if_pos hsome] at hmatch
    exact error_of hmatch
  missing id steps status completedAt resumeAt hnone hsound := by
    have hmatch := h.recordRun id status hR hsound
    unfold Registry.recordRun at hmatch
    rw [hnone] at hmatch
    exact error_of hmatch
  unnamed id e steps status completedAt resumeAt hsome hnone hsound := by
    have hmatch := h.recordRun id status hR hsound
    unfold Registry.recordRun at hmatch
    simp only [hsome, hnone] at hmatch
    exact error_of hmatch
  created e hnone he := by
    have hmatch := h.create hR he
    unfold Registry.create at hmatch
    rw [hnone, if_neg (by simp)] at hmatch
    obtain ⟨s', hs', hR'⟩ := ok_of hmatch
    exact ⟨s', hs', fun id => h.get id hR'⟩
  recorded id e steps status completedAt resumeAt hsome hsound := by
    have hmatch := h.recordRun id status.name hR hsound
    unfold Registry.recordRun at hmatch
    simp only [hsome, lookup_name] at hmatch
    obtain ⟨s', hs', hR'⟩ := ok_of hmatch
    exact ⟨s', hs', fun id' => h.get id' hR'⟩
  updated id lead hwhole := by
    obtain ⟨hanswer, hleft⟩ := h.setLead id hR hwhole
    exact ⟨hanswer, fun id' => h.get id' hleft⟩
  deleted id := by
    obtain ⟨hanswer, hleft⟩ := h.delete id hR
    exact ⟨hanswer, fun id' => h.get id' hleft⟩

end Simulates

/-! ### The rows -/

/-- A registry says what is in rows: each is the row of the enrollment with its id, which is read
back from it. -/
structure Keeps (rows : Rows) (A : Registry) : Prop where
  found : ∀ id, rows.find? id = (A id).map Row.ofEnrollment
  sound : ∀ id, ∀ e ∈ A id, e.id = id ∧ Storable e

namespace Keeps

variable {rows : Rows} {A : Registry}

theorem empty : Keeps [] .empty := ⟨fun _ => rfl, fun _ _ he => absurd he (by simp [Registry.empty])⟩

theorem isSome (h : Keeps rows A) (id : String) : (rows.find? id).isSome = (A id).isSome := by
  rw [h.found, Option.isSome_map]

theorem get (h : Keeps rows A) (id : String) : rows.get id = .ok (A id) := by
  unfold Rows.get
  rw [h.found]
  cases hA : A id with
  | none => rfl
  | some e =>
    exact bind_eq_ok.2 ⟨e, read_ofEnrollment (h.sound id e hA).2, rfl⟩

/-- Rows that differ from others in one id. -/
theorem set (h : Keeps rows A) {id : String} {rows' : Rows} {entry : Option Enrollment}
    (hself : rows'.find? id = entry.map Row.ofEnrollment)
    (hother : ∀ id', id' ≠ id → rows'.find? id' = rows.find? id')
    (hentry : ∀ e ∈ entry, e.id = id ∧ Storable e) : Keeps rows' (A.set id entry) where
  found id' := by
    by_cases hid : id' = id
    · rw [hid, hself, Registry.set_self]
    · rw [hother id' hid, h.found, Registry.set_of_ne A hid]
  sound id' e he := by
    by_cases hid : id' = id
    · rw [hid, Registry.set_self] at he
      rw [hid]
      exact hentry e he
    · rw [Registry.set_of_ne A hid] at he
      exact h.sound id' e he

theorem create (h : Keeps rows A) {e : Enrollment} (he : Storable e) :
    Matches Keeps (rows.create e) (A.create e) := by
  unfold Rows.create Registry.create
  rw [h.isSome]
  cases hA : A e.id with
  | some e' => exact rfl
  | none =>
    have hnone : rows.find? e.id = none := by
      rw [h.found, hA]
      rfl
    refine h.set (find?_append_new (r := Row.ofEnrollment e) hnone) ?_ ?_
    · intro id hid
      unfold Rows.find?
      have hne : (Row.ofEnrollment e).id ≠ id := Ne.symm hid
      simp [List.find?_append, hne]
    · rintro e' ⟨⟩
      exact ⟨rfl, he⟩

theorem recordRun (h : Keeps rows A) (id : String) {steps : List Step} (status : String)
    {completedAt resumeAt : Option Moment}
    (hsound : (Request.recordRun id steps status completedAt resumeAt).IsSound) :
    Matches Keeps (rows.recordRun id steps status completedAt resumeAt)
      (A.recordRun id steps status completedAt resumeAt) := by
  unfold Rows.recordRun Registry.recordRun
  have hfound := h.found id
  cases hA : A id with
  | none =>
    rw [hA] at hfound
    rw [hfound]
    exact rfl
  | some e =>
    rw [hA] at hfound
    rw [hfound]
    cases Status.names.lookup status with
    | none => exact rfl
    | some status =>
      obtain ⟨hid, he⟩ := h.sound id e hA
      have hself := find?_modify id (f := Enrollment.recorded steps status completedAt resumeAt)
        (fun _ => rfl) rows
      have hothers := fun id' (hne : id' ≠ id) => find?_modify_of_ne hne
        (f := Enrollment.recorded steps status completedAt resumeAt) (fun _ => rfl) rows
      refine h.set ?_ hothers ?_
      · refine hself.trans ?_
        rw [hfound]
        exact congrArg some (recorded_ofEnrollment e steps status completedAt resumeAt)
      · rintro e' ⟨⟩
        refine ⟨hid, he.lead, he.overrides, ?_, he.createdAt, hsound.2.1, hsound.2.2⟩
        intro s hs
        rcases List.mem_append.1 hs with hs | hs
        · exact he.steps s hs
        · exact hsound.1 s hs

theorem setLead (h : Keeps rows A) (id : String) {lead : Lead} (hwhole : lead.IsWhole) :
    (rows.setLead id lead).1 = (A.setLead id lead).1 ∧
      Keeps (rows.setLead id lead).2 (A.setLead id lead).2 := by
  have hself := find?_modify id (f := fun r => { r with lead := keptFields lead.toJson })
    (fun _ => rfl) rows
  have hothers := fun id' (hne : id' ≠ id) => find?_modify_of_ne hne
    (f := fun r => { r with lead := keptFields lead.toJson }) (fun _ => rfl) rows
  refine ⟨h.isSome id, h.set ?_ hothers ?_⟩
  · refine hself.trans ?_
    rw [h.found, Option.map_map, Option.map_map]
    rfl
  · intro e' he'
    obtain ⟨e, hA, rfl⟩ := Option.map_eq_some_iff.1 he'
    obtain ⟨hid, he⟩ := h.sound id e hA
    exact ⟨hid, hwhole, he.overrides, he.steps, he.createdAt, he.completedAt, he.resumeAt⟩

theorem delete (h : Keeps rows A) (id : String) :
    (rows.delete id).1 = (A.delete id).1 ∧ Keeps (rows.delete id).2 (A.delete id).2 := by
  refine ⟨h.isSome id, h.set ?_ ?_ ?_⟩
  · exact (find?_filter rows).trans (if_pos rfl)
  · exact fun id' hne => (find?_filter rows).trans (if_neg hne)
  · exact fun _ he => absurd he (by simp)

end Keeps

namespace Visits

/-- Nine in the morning, without a zone. -/
def nine : Moment := Moment.ofParts ⟨2024, 1, 1⟩ ⟨9, 0, 0, 0⟩ none

/-- Ten in the morning, two hours ahead of universal time. -/
def ten : Moment := Moment.ofParts ⟨2024, 1, 1⟩ ⟨10, 0, 0, 0⟩ (some 7200000000)

/-- A step whose output has a number and a list in it. -/
def call : Step where
  nodeId := "call"
  nodeType := "agent-handoff"
  status := .success
  output := [("seconds", .int 90), ("said", .arr [.str "Hello", .null])]
  createdAt := ten

/-- A visit that has had one step. -/
def visit : Enrollment where
  id := "visit"
  workflowId := "tour"
  source := Enrollment.liveSource
  lead := { Lead.unknown with name := some "Ada" }
  overrides := .none
  status := .inProgress
  steps := [call]
  createdAt := nine
  completedAt := none
  resumeAt := some ten

/-- A visit is made, made once more, goes on, gets another lead, is removed and is made again; a run
of another one is to be recorded that is not there. -/
def orders : List Request :=
  [.create visit, .create visit, .recordRun "visit" [call] "success" (some ten) none,
    .recordRun "walk" [call] "success" none none, .setLead "visit" .unknown, .get "visit",
    .delete "visit", .create { visit with steps := [] }, .get "visit"]

end Visits

end Enrollment
end Cadence
