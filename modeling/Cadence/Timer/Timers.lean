/-
# Timers

`Timers` hold at most one job for each id: the moment at which it is to ring. Setting a timer
again replaces its job, and it starts the timers if they do not run. A timer is set by a delay,
which is kept below a ceiling; whoever needs longer sets it again when it rings.

Ringing takes the jobs that are due in the order of their moments and ids. Each is removed just
before it rings, and one that was set anew or cancelled in the meantime does not ring.

Key definitions: `Timers`, `Timers.arm`, `Timers.cancel`, `Timers.dueJobs`, `Timers.ring`.
-/
import Cadence.Timer.Delay

namespace Cadence

open Time

/-- A job: the id it is for and the moment at which it rings. -/
structure Job where
  id : String
  at_ : Moment
  deriving Repr, DecidableEq, Inhabited

/-- Whether timers run, and their jobs. -/
structure Timers where
  isRunning : Bool
  jobs : List Job
  deriving Repr, DecidableEq, Inhabited

namespace Timers

/-- Timers that do not run. -/
def stopped : Timers := ⟨false, []⟩

/-- Timers that run. -/
def start (t : Timers) : Timers := { t with isRunning := true }

/-- Whether there is a job for an id. -/
def isArmed (t : Timers) (id : String) : Bool := t.jobs.any (·.id = id)

/-- The timers without the job for an id. -/
def remove (t : Timers) (id : String) : Timers :=
  { t with jobs := t.jobs.filter (·.id ≠ id) }

/-- The timers without the job for an id, and whether there was one. -/
def cancel (t : Timers) (id : String) : Bool × Timers := (t.isArmed id, t.remove id)

/-- Sets the job for an id after a delay from `now`: the delay in milliseconds that it comes to, and
the timers. -/
def arm (t : Timers) (now : Moment) (ceiling : Int) (id : String) (delay : Delay) :
    Except Fault (Int × Timers) := do
  let ms ← delay.clamp (.whole ceiling)
  match now.add (ms * 1000) with
  | none => throw .overflow
  | some at_ => return (ms, ⟨true, (t.remove id).jobs ++ [⟨id, at_⟩]⟩)

/-- Whether a job comes before another, by its moment and then by its id. -/
def Job.before (a b : Job) : Bool :=
  a.at_.reading < b.at_.reading || (a.at_.reading = b.at_.reading && a.id ≤ b.id)

/-- The jobs by their ids. -/
def byId (t : Timers) : List Job := t.jobs.mergeSort fun a b => a.id ≤ b.id

/-- The jobs that are due, in the order in which they ring. -/
def dueJobs (t : Timers) (now : Moment) : List Job :=
  (t.jobs.filter fun j => j.at_.le? now = some true).mergeSort Job.before

/-- Lets jobs ring that are still set, in a state that has timers. Gives their ids. -/
def ringAll {σ : Type} (timers : σ → Timers) (set : Timers → σ → σ) (resume : String → σ → σ) :
    List Job → σ → List String × σ
  | [], s => ([], s)
  | job :: rest, s =>
    if (timers s).jobs.contains job then
      let s := resume job.id (set ((timers s).remove job.id) s)
      let (ids, s) := ringAll timers set resume rest s
      (job.id :: ids, s)
    else ringAll timers set resume rest s

/-- Lets the jobs ring that are due. -/
def ring {σ : Type} (timers : σ → Timers) (set : Timers → σ → σ) (resume : String → σ → σ)
    (now : Moment) (s : σ) : List String × σ :=
  ringAll timers set resume ((timers s).dueJobs now) s

end Timers
end Cadence
