/-
# When messages may be sent

A send window that is absent or disabled allows every moment. Otherwise a moment is looked at on
the clock of the window's time zone, or of the default zone if the window's name gives none: its
day of the week must be among the allowed days, if any are listed, and its minute of the day must
lie between the start and the end, both included. A start after the end spans midnight; equal
times, and times that are not written as hours and minutes, allow the whole day.

Key definitions: `minutesOf?`, `SendWindow.allows`, `SendWindow.spans`.
-/
import Cadence.Fault
import Cadence.Text.Ranges
import Cadence.Workflow.Definition

namespace Cadence
namespace Workflow

open Time

/-- The time zone of windows and services that name none. -/
def homeZone : String := "Europe/Brussels"

/-- The number of two decimal digits of any script. -/
def pair? (a b : Char) : Option Nat := do
  some ((← Text.decimalDigit? a) * 10 + (← Text.decimalDigit? b))

/-- The minutes after midnight of a time written as hours and minutes with two digits each. A line
break may follow. -/
def minutesOf? (s : String) : Option Nat :=
  let clock (a b c d : Char) : Option Nat := do
    let h ← pair? a b
    let m ← pair? c d
    if 23 < h || 59 < m then none else some (h * 60 + m)
  match s.toList with
  | [a, b, ':', c, d] => clock a b c d
  | [a, b, ':', c, d, '\n'] => clock a b c d
  | _ => none

/-- The zone with a name, or the default zone if the name is absent, empty or gives none. An area
is no zone and no reason to take the default one, and neither is a name that no file can have, one
that passes through a file or one with too many folders in it. -/
def zoneOr (default : String) (name : Option String) : Except Fault Zone :=
  let name := (name.filter (· ≠ "")).getD default
  match Zones.lookup name with
  | .ok z => .ok z
  | .error (.area area) => .error (.zoneArea area)
  | .error (.tooLong _) => .error .longName
  | .error (.throughMarker _) => .error .mismatched
  | .error (.manyFolders _) => .error .manyNames
  | .error _ => (Zones.lookup default).mapError Fault.ofZone

namespace SendWindow

/-- Whether a minute of the day lies between start and end. -/
def spans (start finish minute : Nat) : Bool :=
  if start = finish then true
  else if start < finish then start ≤ minute && minute ≤ finish
  else start ≤ minute || minute ≤ finish

/-- Whether a moment on the clock of the window's zone is in the window. -/
def holds (w : SendWindow) (local_ : Moment) : Bool :=
  (w.allowedDays.isEmpty || w.allowedDays.contains (local_.weekday : Int)) &&
    match minutesOf? w.startTime, minutesOf? w.endTime with
    | some start, some finish => spans start finish local_.minuteOfDay
    | _, _ => true

/-- Whether messages may be sent at a moment. -/
def allows (default : String) (window : Option SendWindow) (m : Moment) : Except Fault Bool :=
  match window with
  | none => .ok true
  | some w =>
    if !w.enabled then .ok true
    else do
      let zone ← zoneOr default w.timezone
      match m.inZone? zone with
      | none => .error .overflow
      | some local_ => .ok (w.holds local_)

end SendWindow
end Workflow
end Cadence
