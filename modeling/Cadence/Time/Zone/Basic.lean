/-
# Time zones

A `Zone` has an offset from universal time before the first change that is known for it, the
changes in order, and a `Tail` for the time after the last one. `Zone.offsetAt` is the offset at an
instant; `Moment.inZone?` puts a moment on the clock of a zone.

The zones are kept as `Record`s, in which the changes are written as text: for each change the
seconds since the one before it, the first since the start of year 1, in base 36 with small
letters, and then a capital letter that picks an offset from the record's list, `A` being the
first. `Record.decode` reads this text.

Key definitions: `Zone`, `Zone.offsetAt`, `Record`, `Record.decode`, `Moment.inZone?`.
-/
import Cadence.Time.Moment
import Cadence.Time.Zone.Rule

namespace Cadence
namespace Time

/-- A change of a zone's clock: the instant, in seconds of universal time since the start of year
1, and the offset from then on, in seconds. -/
structure Change where
  instant : Int
  offset : Int
  deriving Repr, DecidableEq, Inhabited

/-- The clock of a region. -/
structure Zone where
  first : Int
  changes : List Change
  tail : Tail
  deriving Repr, DecidableEq, Inhabited

/-- The offset at an instant among changes, or what holds after the last of them. -/
def Change.offsetAt (at_ : Int) (after : Int) : Int → List Change → Int
  | _, [] => after
  | before, c :: rest => if at_ < c.instant then before else offsetAt at_ after c.offset rest

/-- The offset of a zone's clock at an instant, in seconds of universal time since the start of
year 1. -/
def Zone.offsetAt (z : Zone) (at_ : Int) : Int :=
  let year := yearOf (at_ / 86400).toNat
  Change.offsetAt at_ (z.tail.offsetAt year at_) z.first z.changes

/-- The moment on the clock of a zone, if both universal time and that clock can show it. A moment
without an offset is read as universal time. -/
def Moment.inZone? (m : Moment) (z : Zone) : Option Moment :=
  let utc := m.reading - m.offset.getD 0
  if shows utc then m.atOffset (z.offsetAt (utc / second) * second) else none

/-- A zone as it is listed: its name, the offsets of its clock starting with the one before all
changes, what holds after the last change, and the changes as text. -/
structure Record where
  name : String
  offsets : List Int
  tail : Tail
  changes : List String
  deriving Repr, DecidableEq, Inhabited

namespace Record

/-- The value of a digit in base 36. -/
def digit? (c : Char) : Option Nat :=
  if '0' ≤ c && c ≤ '9' then some (c.toNat - '0'.toNat)
  else if 'a' ≤ c && c ≤ 'z' then some (c.toNat - 'a'.toNat + 10)
  else none

/-- Reads changes, given the instant of the change before and the digits read so far. -/
def decodeChanges (offsets : List Int) : Int → Nat → List Char → List Change
  | _, _, [] => []
  | last, digits, c :: rest =>
    match digit? c with
    | some d => decodeChanges offsets last (digits * 36 + d) rest
    | none =>
      let instant := last + digits
      ⟨instant, (offsets[c.toNat - 'A'.toNat]?).getD 0⟩ :: decodeChanges offsets instant 0 rest

/-- The zone that a record describes. -/
def decode (r : Record) : Zone :=
  ⟨r.offsets.headD 0, decodeChanges r.offsets 0 0 (r.changes.flatMap String.toList), r.tail⟩

end Record
end Time
end Cadence
