/-
# Yearly clock changes

Many zones put their clocks forward and back on days that a rule fixes for every year, such as the
last Sunday of March. A `RuleDay` is such a day with a time, a `SummerRule` the pair of changes, and
`Tail` says what a zone does after the last change that is listed for it: keep one offset, or
follow a summer rule for ever.

A change happens at a time that is read either in universal time or on the clock that is put
forward or back; the latter is the standard clock in spring and the summer clock in autumn. On the
southern half of the globe summer spans the turn of the year, so it starts later in the year than it
ends.

Key definitions: `RuleDay`, `SummerRule`, `Tail.offsetAt`.
-/
import Cadence.Time.Civil

namespace Cadence
namespace Time

/-- The clock on which the time of a yearly change is read. -/
inductive RuleClock where
  | universal
  | local
  deriving Repr, DecidableEq, Inhabited

/-- A day of every year and a time: the `week`-th of the month's days that fall on `weekday`, the
fifth being the last one, and the seconds after the midnight that starts it. The seconds may point
into another day. -/
structure RuleDay where
  month : Nat
  week : Nat
  weekday : Nat
  seconds : Int
  deriving Repr, DecidableEq, Inhabited

/-- The changes to and from summer time of a year. -/
structure SummerRule where
  clock : RuleClock
  start : RuleDay
  finish : RuleDay
  deriving Repr, DecidableEq, Inhabited

/-- What holds after the last listed change of a zone. Offsets are in seconds. -/
inductive Tail where
  | steady (offset : Int)
  | yearly (standard summer : Int) (rule : SummerRule)
  deriving Repr, DecidableEq, Inhabited

/-- The day of the month of a rule's day in a year. -/
def RuleDay.dayOfMonth (r : RuleDay) (year : Nat) : Nat :=
  let first := Time.weekday (dayOf ⟨year, r.month, 1⟩)
  let d := 1 + (r.weekday + 7 - first) % 7 + 7 * (r.week - 1)
  if daysInMonth year r.month < d then d - 7 else d

/-- The seconds from the start of year 1 to a rule's day and time in a year. -/
def RuleDay.inYear (r : RuleDay) (year : Nat) : Int :=
  dayOf ⟨year, r.month, r.dayOfMonth year⟩ * 86400 + r.seconds

/-- Whether summer time holds in a year at an instant, in seconds of universal time. -/
def SummerRule.isSummer (r : SummerRule) (standard summer : Int) (year : Nat) (at_ : Int) : Bool :=
  let (before, after) : Int × Int := match r.clock with
    | .universal => (0, 0)
    | .local => (standard, summer)
  let start := r.start.inYear year - before
  let finish := r.finish.inYear year - after
  if start < finish then start ≤ at_ && at_ < finish else !(finish ≤ at_ && at_ < start)

/-- The offset at an instant of a year, in seconds. -/
def Tail.offsetAt (year : Nat) (at_ : Int) : Tail → Int
  | .steady offset => offset
  | .yearly standard summer rule =>
    if rule.isSummer standard summer year at_ then summer else standard

namespace SummerRule

/-- The last Sundays of March and October at one o'clock universal time. -/
def european : SummerRule := ⟨.universal, ⟨3, 5, 0, 3600⟩, ⟨10, 5, 0, 3600⟩⟩

/-- The second Sunday of March and the first Sunday of November at two. -/
def northAmerican : SummerRule := ⟨.local, ⟨3, 2, 0, 7200⟩, ⟨11, 1, 0, 7200⟩⟩

/-- The second Sunday of March at midnight and the first Sunday of November at one. -/
def cuban : SummerRule := ⟨.local, ⟨3, 2, 0, 0⟩, ⟨11, 1, 0, 3600⟩⟩

/-- The nights after the first Saturdays of September and April. -/
def chilean : SummerRule := ⟨.universal, ⟨9, 1, 6, 100800⟩, ⟨4, 1, 6, 97200⟩⟩

/-- The first Sundays of October at two and of April at three. -/
def australian : SummerRule := ⟨.local, ⟨10, 1, 0, 7200⟩, ⟨4, 1, 0, 10800⟩⟩

/-- The first Sundays of October and April at two. -/
def lordHowe : SummerRule := ⟨.local, ⟨10, 1, 0, 7200⟩, ⟨4, 1, 0, 7200⟩⟩

/-- The last Sunday of September and the first Sunday of April, ten hours before they start in
universal time. -/
def newZealand : SummerRule := ⟨.universal, ⟨9, 5, 0, -36000⟩, ⟨4, 1, 0, -36000⟩⟩

/-- The last Friday of April at midnight and the end of the last Thursday of October. -/
def egyptian : SummerRule := ⟨.local, ⟨4, 5, 5, 0⟩, ⟨10, 5, 4, 86400⟩⟩

/-- The last Sundays of March and October at midnight. -/
def lebanese : SummerRule := ⟨.local, ⟨3, 5, 0, 0⟩, ⟨10, 5, 0, 0⟩⟩

/-- Fifty hours into the fourth Thursdays of March and October. -/
def palestinian : SummerRule := ⟨.local, ⟨3, 4, 4, 180000⟩, ⟨10, 4, 4, 180000⟩⟩

/-- Twenty-six hours into the fourth Thursday of March, and the last Sunday of October at two. -/
def israeli : SummerRule := ⟨.local, ⟨3, 4, 4, 93600⟩, ⟨10, 5, 0, 7200⟩⟩

end SummerRule
end Time
end Cadence
