/-
# Advancing several enrollments at once

Several advances may be under way at the same time. `advanceTogether` follows one order of their
moves: advances come in turn, and whatever has to be done next is done in the order in which it came
up. A delivery takes three turns, one for the collaborator, one to notice that it is done and one to
go on with the reply. An advance whose collaborator does not answer goes on when nothing else is left
to do.

Key definitions: `Service.Hall`, `Service.Event`, `Service.Hall.step`, `Service.advanceTogether`.
-/
import Cadence.Service.Floor

namespace Cadence
namespace Service

open Time

/-- A turn of an advance, by its number. -/
inductive Event where
  | arrive (task : Nat)
  | granted (task : Nat)
  | call (task : Nat)
  | settle (task : Nat)
  | wake (task : Nat)
  deriving Repr, DecidableEq, Inhabited

/-- The floor with its collaborators: what is to be done next, the replies that advances have got
but not heard yet, and the advances whose collaborators do not answer. -/
structure Hall (σ : Type) where
  floor : Floor
  world : σ
  queue : List Event
  replies : List (Nat × Reply)
  hung : List Nat

namespace Hall

variable {σ : Type}

/-- Something to be done after everything else. -/
def enqueue (h : Hall σ) (e : Event) : Hall σ := { h with queue := h.queue ++ [e] }

/-- Where an advance is. -/
def place (h : Hall σ) (task : Nat) : Place := ((h.floor.workers[task]?).map (·.place)).getD .outside

/-- The advance that holds the lock of an enrollment. -/
def holder (h : Hall σ) (id : String) : Option Nat := (h.floor.locks.get? id).bind (·.holder)

/-- What is next after an advance went on for an enrollment: its delivery, or whoever has got the
lock that it let go. -/
def goOn (h : Hall σ) (task : Nat) (id : String) : Hall σ :=
  match h.place task with
  | .asking .. => h.enqueue (.call task)
  | _ =>
    match h.holder id with
    | some other => h.enqueue (.granted other)
    | none => h

/-- The enrollment of an advance. -/
def idOf (h : Hall σ) (task : Nat) : String :=
  (((h.floor.workers[task]?).map (·.todo)).bind List.head?).getD ""

/-- An advance makes a move after which it has got on. -/
def proceed (c : Config) (handsOver : Bool) (h : Hall σ) (task : Nat) (m : Move) : Hall σ :=
  { h with floor := h.floor.move c handsOver m }.goOn task (h.idOf task)

/-- What is done in one turn. -/
def handle (c : Config) (k : Collaborators σ) (h : Hall σ) : Event → Hall σ
  | .arrive task =>
    let h := { h with floor := h.floor.move c k.handsOver (.come task) }
    match h.place task with
    | .admitted => h.proceed c k.handsOver task (.begin_ task)
    | _ => h
  | .granted task => h.proceed c k.handsOver task (.begin_ task)
  | .call task =>
    match h.place task with
    | .asking _ _ _ delivery _ =>
      let (reply, world) := k.deliver delivery h.world
      let h := { h with world, replies := (task, reply) :: h.replies }
      if reply = .hung then { h with hung := h.hung ++ [task] } else h.enqueue (.settle task)
    | _ => h
  | .settle task => h.enqueue (.wake task)
  | .wake task =>
    h.proceed c k.handsOver task (.hear task ((h.replies.lookup task).getD .hung))

/-- The next turn, if there is one. -/
def step (c : Config) (k : Collaborators σ) (h : Hall σ) : Option (Hall σ) :=
  match h.queue, h.hung with
  | e :: rest, _ => some ({ h with queue := rest }.handle c k e)
  | [], task :: hung => some ({ h with hung }.handle c k (.wake task))
  | [], [] => none

/-- Some number of turns, or as many as there are. -/
def run (c : Config) (k : Collaborators σ) : Nat → Hall σ → Hall σ
  | 0, h => h
  | turns + 1, h =>
    match h.step c k with
    | some h => run c k turns h
    | none => h

end Hall

variable {σ : Type}

/-- The number of nodes that a run of any stored workflow can have. -/
def nodeBound (files : Workflow.Files) (now : Moment) : Nat :=
  files.foldl (fun n f => match f.read now with
    | .ok r => n + r.definition.nodes.length
    | .error _ => n) 0

/-- A service with collaborators in another state. -/
def State.withWorld {τ : Type} (s : State σ) (world : τ) : State τ :=
  ⟨s.files, s.rows, s.timers, s.clock, s.made, world⟩

/-- Somebody is there to advance each of some enrollments. -/
def Hall.opening (c : Config) (k : Collaborators σ) (s : State σ) (ids : List String) : Hall σ :=
  let moves := ids.map fun id => Move.advance id none none
  { floor := (Floor.idle (s.withWorld ())).play c k.handsOver moves
    world := s.world
    queue := (List.range ids.length).map .arrive
    replies := []
    hung := [] }

/-- Advances enrollments at once: the report or the fault of each. An advance takes a turn to
arrive, one to get its lock, and three or, without an answer, two for each of its deliveries. -/
def advanceTogether (c : Config) (k : Collaborators σ) (ids : List String) :
    Op σ (List (Except Fault Report)) := do
  let s ← get
  let turns := ids.length * (3 * nodeBound s.files s.clock + 3)
  let h := (Hall.opening c k s ids).run c k turns
  set (h.floor.state.withWorld h.world)
  return (List.range ids.length).map fun task =>
    (h.floor.results.lookup task).getD (.error .malformed)

end Service
end Cadence
