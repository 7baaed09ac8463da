/-
# Moments

A `Moment` is a reading of a clock, in microseconds since the start of year 1, with the offset of
that clock from universal time if it is known. Two moments with offsets are compared as instants
and two without by their readings; one with and one without an offset have no order.

Clocks run from year 1 to year 9999: `Moment.add` and the changes of offset give nothing when the
reading would leave these years.

Key definitions: `Moment`, `Moment.instant?`, `Moment.compare?`, `Moment.add`, `Moment.atOffset`,
`Moment.assumeUtc`, `Moment.toUtc`.
-/
import Cadence.Time.Civil

namespace Cadence
namespace Time

/-- Microseconds in a second, a minute and a day. -/
def second : Int := 1000000
def minute : Int := 60 * second
def day : Int := 86400 * second

/-- The end of year 9999, the first reading that a clock cannot show. -/
def endOfTime : Int := 3652059 * day

/-- A clock reading in microseconds since the start of year 1, and the offset of the clock from
universal time, eastward in microseconds, if known. -/
structure Moment where
  reading : Int
  offset : Option Int
  deriving Repr, DecidableEq, Inhabited

/-- The time of day. -/
structure TimeOfDay where
  hour : Nat
  minute : Nat
  second : Nat
  micro : Nat
  deriving Repr, DecidableEq, Inhabited

/-- Whether the parts are in range. -/
def TimeOfDay.isValid (t : TimeOfDay) : Bool :=
  t.hour < 24 && t.minute < 60 && t.second < 60 && t.micro < 1000000

/-- Microseconds since midnight. -/
def TimeOfDay.micros (t : TimeOfDay) : Int :=
  ((t.hour * 60 + t.minute) * 60 + t.second) * 1000000 + t.micro

namespace Moment

/-- Whether a clock can show a reading. -/
def shows (reading : Int) : Bool := 0 ≤ reading && reading < endOfTime

/-- The moment of a date and a time of day. -/
def ofParts (d : Date) (t : TimeOfDay) (offset : Option Int) : Moment :=
  ⟨dayOf d * day + t.micros, offset⟩

/-- The days since day zero. -/
def dayNumber (m : Moment) : Nat := (m.reading / day).toNat

/-- The date that the clock shows. -/
def date (m : Moment) : Date := dateOf m.dayNumber

/-- The time of day that the clock shows. -/
def timeOfDay (m : Moment) : TimeOfDay :=
  let us := (m.reading % day).toNat
  let s := us / 1000000
  ⟨s / 3600, s / 60 % 60, s % 60, us % 1000000⟩

/-- The minutes since midnight that the clock shows. -/
def minuteOfDay (m : Moment) : Nat := ((m.reading % day) / minute).toNat

/-- The day of the week that the clock shows, Sunday being 0. -/
def weekday (m : Moment) : Nat := Time.weekday m.dayNumber

/-- The instant, as a reading of a clock at offset zero, of a moment whose offset is known. -/
def instant? (m : Moment) : Option Int := m.offset.map (m.reading - ·)

/-- The order of two moments, if they have one. -/
def compare? (a b : Moment) : Option Ordering :=
  match a.offset, b.offset with
  | none, none => some (compare a.reading b.reading)
  | some x, some y => some (compare (a.reading - x) (b.reading - y))
  | _, _ => none

/-- Whether the first moment is not after the second, if they have an order. -/
def le? (a b : Moment) : Option Bool := (a.compare? b).map (· != .gt)

/-- The moment a number of microseconds later on the same clock, if the clock can show it. -/
def add (m : Moment) (micros : Int) : Option Moment :=
  let r := m.reading + micros
  if shows r then some ⟨r, m.offset⟩ else none

/-- The moment with offset zero if its offset is not known. -/
def assumeUtc (m : Moment) : Moment :=
  match m.offset with
  | some _ => m
  | none => ⟨m.reading, some 0⟩

/-- The same instant on a clock at another offset, if both universal time and that clock can show
it. A moment without an offset is read as universal time. -/
def atOffset (m : Moment) (offset : Int) : Option Moment :=
  let utc := m.reading - m.offset.getD 0
  if shows utc && shows (utc + offset) then some ⟨utc + offset, some offset⟩ else none

/-- The same instant in universal time; a moment that is already there is kept. -/
def toUtc (m : Moment) : Option Moment :=
  if m.offset = some 0 then some m else m.atOffset 0

/-- The moment in universal time; one that universal time cannot show is kept. -/
def universal (m : Moment) : Moment := (m.assumeUtc.toUtc).getD m

/-- The microseconds from the first moment to the second, if they have an order. -/
def until? (a b : Moment) : Option Int :=
  match a.offset, b.offset with
  | none, none => some (b.reading - a.reading)
  | some x, some y => some ((b.reading - y) - (a.reading - x))
  | _, _ => none

end Moment
end Time
end Cadence
