/-
# Delays

Timers are set by delays in milliseconds, whole ones or binary numbers. A delay is kept between zero
and a ceiling and its fraction is dropped. The time until a moment is counted in seconds and then in
milliseconds, rounded to a binary number each time.

Key definitions: `Delay`, `Delay.clamp`, `Delay.until_`, `waitingMillis`.
-/
import Cadence.Run.Context

namespace Cadence

open Time

/-- A number of milliseconds. -/
inductive Delay where
  | whole (n : Int)
  | binary (x : Binary64)
  deriving Repr, DecidableEq, Inhabited

namespace Delay

/-- Whether a delay is less than another. A value that is no number is not. -/
def less : Delay → Delay → Bool
  | whole a, whole b => a < b
  | whole a, binary y => y.gtInt a
  | binary x, whole b => x.ltInt b
  | binary x, binary y => x.less y

/-- A delay without its fraction. -/
def truncate : Delay → Except Fault Int
  | whole n => .ok n
  | binary .nan => .error .malformed
  | binary x =>
    match x.truncate with
    | some n => .ok n
    | none => .error .overflow

/-- A delay between zero and a ceiling, without its fraction. -/
def clamp (delay ceiling : Delay) : Except Fault Int :=
  let limited := if ceiling.less delay then ceiling else delay
  if (whole 0).less limited then limited.truncate else .ok 0

/-- Microseconds as seconds and then as milliseconds, in binary numbers. -/
def ofMicros (us : Int) : Binary64 :=
  (Binary64.ofRatio (us < 0) us.natAbs 1000000).mul (.ofInt 1000)

/-- The milliseconds until a moment. Moments without an offset are universal time. -/
def until_ (due now : Moment) : Delay :=
  match now.assumeUtc.until? due.assumeUtc with
  | some us => .binary (ofMicros us)
  | none => .whole 0

end Delay

/-- The milliseconds of a waiting time. -/
def waitingMillis (amount : Int) (unit : WaitUnit) : Except Fault Int := do
  (Delay.binary (Delay.ofMicros (← waitingTime amount unit))).truncate

end Cadence
