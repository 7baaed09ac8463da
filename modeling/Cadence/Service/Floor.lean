/-
# Several at work at once

Enrollments are advanced and deleted, their timers ring, and polls find them due, all at the same
time. Whoever works for an enrollment holds its lock meanwhile. A worker lets others go on where it
waits: for the lock of its enrollment, and for the reply to a delivery. In between nobody else does
anything.

A `Floor` is all that is under way, and a `Move` what may happen next: somebody new comes, a worker
goes on as far as it can, or the clock or the workflows change. Any order of moves is one that may
happen; a move that is not possible changes nothing. Replies are part of the moves, so the floor has
no collaborators.

A ringing timer and a poll decide on a resume before they have the lock. A timer is gone when it has
rung; a poll takes the enrollments that it found due one after the other, cancels the timer of each,
and ends with the first fault.

The floor keeps a book of the visits to enrollments, in the order in which their workers began after
they had got the lock, and notes all deliveries that were asked for.

Key definitions: `Service.Errand`, `Service.Worker`, `Service.Visit`, `Service.Floor`,
`Service.Move`, `Service.Floor.move`, `Service.Floor.play`.
-/
import Cadence.Lock.Table
import Cadence.Service.Operations

namespace Cadence
namespace Service

open Time

/-- What a worker came for. -/
inductive Errand where
  | advance (ignore : Option Bool) (news : Option Lead)
  | delete
  | ring
  | poll
  deriving Repr, DecidableEq, Inhabited

namespace Errand

/-- What is said about a run, if the errand is to run an enrollment: whether the send window is to be
ignored, and news about the lead. -/
def orders : Errand → Option (Option Bool × Option Lead)
  | advance ignore news => some (ignore, news)
  | delete => none
  | ring => some (none, none)
  | poll => some (none, none)

/-- Whether nobody asked for the run. -/
def isAutomatic : Errand → Bool
  | ring => true
  | poll => true
  | _ => false

end Errand

/-- How far a worker is with an enrollment. One that asks for a delivery knows the number of its
visit, what it runs since when, and how it goes on with the reply. -/
inductive Place where
  | outside
  | waiting
  | admitted
  | asking (visit : Nat) (enrollment : Enrollment) (now : Moment) (delivery : Delivery)
      (next : Reply → Plan (Except Fault Report))

/-- Somebody who is there to work for enrollments, one after the other: those that are left to do are
the last ones. -/
structure Worker where
  errand : Errand
  ids : List String
  todo : List String
  place : Place

/-- What a worker found when it began with an enrollment, and the replies that it got. -/
structure Visit where
  worker : Nat
  id : String
  errand : Errand
  files : Workflow.Files
  clock : Moment
  replies : List Reply
  deriving Repr, DecidableEq, Inhabited

/-- All that is under way: the service, the locks of enrollments, the workers by their numbers, the
deliveries that were asked for and for whom, the visits to enrollments, and what runs came to. -/
structure Floor where
  state : State Unit
  locks : LockTable
  workers : List Worker
  asked : List (String × Delivery)
  book : List Visit
  results : List (Nat × Except Fault Report)

/-- What may happen next. -/
inductive Move where
  | advance (id : String) (ignore : Option Bool) (news : Option Lead)
  | delete (id : String)
  | ring (id : String)
  | poll (now : Moment)
  | come (worker : Nat)
  | begin_ (worker : Nat)
  | hear (worker : Nat) (reply : Reply)
  | setClock (now : Moment)
  | save (record : Workflow.Record)
  | drop (workflowId : String)
  deriving Repr, DecidableEq, Inhabited

namespace Floor

/-- Nobody is at work for a service. -/
def idle (state : State Unit) : Floor := ⟨state, .empty, [], [], [], []⟩

/-- The floor after an operation of the service. -/
def operate {α : Type} (f : Floor) (op : Op Unit α) : Floor := { f with state := (op.run f.state).2 }

/-- Somebody new is there. -/
def add (f : Floor) (errand : Errand) (ids : List String) : Floor :=
  { f with workers := f.workers ++ [⟨errand, ids, ids, .outside⟩] }

/-- A worker has got to a place. -/
def put (f : Floor) (worker : Nat) (place : Place) : Floor :=
  { f with workers := f.workers.modify worker fun w => { w with place } }

/-- A worker lets go of the lock of an enrollment, which goes to the next one that waits for it. -/
def leave (f : Floor) (worker : Nat) (id : String) (todo : List String) : Floor :=
  let (next, locks) := f.locks.leave id
  let workers := f.workers.modify worker fun w => { w with todo, place := .outside }
  let f := { f with locks, workers }
  match next with
  | some other => f.put other .admitted
  | none => f

/-- Whether a poll goes on after the run of an enrollment. -/
def goesOn : Except Fault Report → Bool
  | .ok _ => true
  | .error (.noEnrollment _) => true
  | .error _ => false

/-- A worker is done with the run of an enrollment. -/
def finish (f : Floor) (worker : Nat) (id : String) (rest : List String)
    (r : Except Fault Report) : Floor :=
  { f with results := f.results ++ [(worker, r)] }.leave worker id (if goesOn r then rest else [])

/-- A worker follows a plan up to its next delivery, or to its end, where the report is recorded. -/
def follow (c : Config) (f : Floor) (worker : Nat) (id : String) (rest : List String) (visit : Nat)
    (e : Enrollment) (now : Moment) : Plan (Except Fault Report) → Floor
  | .ask delivery next =>
    { f with asked := f.asked ++ [(id, delivery)] }.put worker (.asking visit e now delivery next)
  | .done result =>
    let (r, state) := (do conclude c e now (← orFault result) : Op Unit Report).run f.state
    { f with state }.finish worker id rest r

/-- A worker comes for the lock of its next enrollment. A poll cancels the timer first. -/
def come (f : Floor) (worker : Nat) : Floor :=
  match f.workers[worker]? with
  | some ⟨errand, _, id :: _, .outside⟩ =>
    let f := if errand = .poll then f.operate (cancelTimer id) else f
    let ((_, granted), locks) := f.locks.enter id worker
    { f with locks }.put worker (if granted then .admitted else .waiting)
  | _ => f

/-- The visit of a worker to an enrollment is put into the book. -/
def note (f : Floor) (worker : Nat) (id : String) (errand : Errand) : Floor :=
  { f with book := f.book ++ [⟨worker, id, errand, f.state.files, f.state.clock, []⟩] }

/-- A reply is noted with its visit. -/
def noteReply (f : Floor) (visit : Nat) (reply : Reply) : Floor :=
  { f with book := f.book.modify visit fun v => { v with replies := v.replies ++ [reply] } }

/-- A worker has the lock of its enrollment and begins. -/
def begin_ (c : Config) (handsOver : Bool) (f : Floor) (worker : Nat) : Floor :=
  match f.workers[worker]? with
  | some ⟨errand, _, id :: rest, .admitted⟩ =>
    let visit := f.book.length
    let f := f.note worker id errand
    match errand.orders with
    | none => (f.operate (Service.delete id)).leave worker id rest
    | some (ignore, news) =>
      match (Service.begin_ c handsOver id ignore news).run f.state with
      | (.error fault, state) => { f with state }.finish worker id rest (.error fault)
      | (.ok (.finished r), state) => { f with state }.finish worker id rest (.ok r)
      | (.ok (.running e now plan), state) =>
        { f with state }.follow c worker id rest visit e now plan
  | _ => f

/-- A worker has the reply to its delivery and goes on. -/
def hear (c : Config) (f : Floor) (worker : Nat) (reply : Reply) : Floor :=
  match f.workers[worker]? with
  | some ⟨_, _, id :: rest, .asking visit e now _ next⟩ =>
    (f.noteReply visit reply).follow c worker id rest visit e now (next reply)
  | _ => f

/-- The timer of an enrollment rings, if it is due by the clock. -/
def ring (f : Floor) (id : String) : Floor :=
  if f.state.timers.jobs.any fun j => j.id = id ∧ j.at_.le? f.state.clock.assumeUtc = some true then
    (f.operate (cancelTimer id)).add .ring [id]
  else f

/-- A poll finds the enrollments that are due at a time. -/
def poll (f : Floor) (now : Moment) : Floor :=
  match f.state.rows.dueAt now with
  | .ok due => f.add .poll due
  | .error _ => f

/-- What a move makes of the floor. -/
def move (c : Config) (handsOver : Bool) (f : Floor) : Move → Floor
  | .advance id ignore news => f.add (.advance ignore news) [id]
  | .delete id => f.add .delete [id]
  | .ring id => f.ring id
  | .poll now => f.poll now
  | .come worker => f.come worker
  | .begin_ worker => f.begin_ c handsOver worker
  | .hear worker reply => f.hear c worker reply
  | .setClock now => { f with state := { f.state with clock := now } }
  | .save record => f.operate (saveWorkflow record)
  | .drop workflowId => f.operate (dropWorkflow workflowId)

/-- Moves, one after the other. -/
def play (c : Config) (handsOver : Bool) (f : Floor) (moves : List Move) : Floor :=
  moves.foldl (move c handsOver) f

end Floor
end Service
end Cadence
