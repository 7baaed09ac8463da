/-
# Moments as text

`Moment.iso` writes a moment in the extended format of ISO 8601 with its offset as hours and
minutes, seconds and microseconds only where they are not zero; `Moment.spaced` puts a blank
between date and time; `Moment.wire` writes offset zero as `Z`, for values sent to clients.

`Moment.ofIso?` reads the formats of ISO 8601: dates with or without hyphens, by month or by week,
any one character between date and time, times with or without colons, fractions cut off after six
digits. A time that stands before an offset may end in characters that are not read; a time at the
end of the text may not.

Key definitions: `Moment.iso`, `Moment.spaced`, `Moment.wire`, `Moment.ofIso?`.
-/
import Cadence.Time.Moment

namespace Cadence
namespace Time

/-- A number with at least `width` digits. -/
def padded (width n : Nat) : List Char :=
  let ds := Nat.toDigits 10 n
  List.replicate (width - ds.length) '0' ++ ds

/-- Hours, minutes and seconds of a duration, with a fraction if there is one. -/
def clockText (micros : Nat) (withSeconds : Bool) : List Char :=
  let s := micros / 1000000
  let us := micros % 1000000
  padded 2 (s / 3600) ++ ':' :: padded 2 (s / 60 % 60) ++
    (if withSeconds || s % 60 != 0 || us != 0 then ':' :: padded 2 (s % 60) else []) ++
    (if us = 0 then [] else '.' :: padded 6 us)

/-- An offset with its sign. -/
def offsetText (offset : Int) : List Char :=
  (if offset < 0 then '-' else '+') :: clockText offset.natAbs false

namespace Moment

/-- The date and the time, a separator between them. -/
def localText (m : Moment) (separator : Char) : List Char :=
  let d := m.date
  padded 4 d.year ++ '-' :: padded 2 d.month ++ '-' :: padded 2 d.day ++
    separator :: clockText (m.reading % day).toNat true

/-- The moment in the extended format, the offset in figures. -/
def iso (m : Moment) : String :=
  String.ofList (m.localText 'T' ++ (m.offset.map offsetText).getD [])

/-- The moment with a blank between date and time. -/
def spaced (m : Moment) : String :=
  String.ofList (m.localText ' ' ++ (m.offset.map offsetText).getD [])

/-- The offset as sent to clients: `Z` for zero, else whole minutes. -/
def wireOffset (offset : Int) : List Char :=
  if offset = 0 then ['Z']
  else
    let minutes := offset.natAbs / 60000000
    (if offset < 0 then '-' else '+') :: padded 2 (minutes / 60) ++ ':' :: padded 2 (minutes % 60)

/-- The moment as sent to clients. -/
def wire (m : Moment) : String :=
  String.ofList (m.localText 'T' ++ (m.offset.map wireOffset).getD [])

end Moment

/-- The number written by the first `n` characters, all digits, and the rest. -/
def takeNumber (n : Nat) (cs : List Char) : Option (Nat × List Char) :=
  let ds := cs.take n
  if ds.length = n ∧ ds.all Char.isDigit then
    some (ds.foldl (fun v d => v * 10 + (d.toNat - 48)) 0, cs.drop n)
  else none

/-- The day on which a week of a year starts, weeks starting on Monday and the first holding the
first Thursday. -/
def weekOneStart (year : Nat) : Int :=
  let first : Int := dayOf ⟨year, 1, 1⟩
  let weekdayFromMonday := first % 7
  let start := first - weekdayFromMonday
  if weekdayFromMonday > 3 then start + 7 else start

/-- The number of weeks of a year. -/
def weeksIn (year : Nat) : Nat :=
  let weekday := dayOf ⟨year, 1, 1⟩ % 7
  if weekday = 3 ∨ (weekday = 2 ∧ isLeap year) then 53 else 52

/-- The day number of a week date, if the week and the day of the week exist. -/
def ofWeekDate? (year week weekday : Nat) : Option Nat :=
  if 1 ≤ year ∧ year ≤ 9999 ∧ 1 ≤ week ∧ week ≤ weeksIn year ∧ 1 ≤ weekday ∧ weekday ≤ 7 then
    let n := weekOneStart year + (week - 1 : Nat) * 7 + (weekday - 1 : Nat)
    if 0 ≤ n ∧ n < 3652059 then some n.toNat else none
  else none

/-- Where the date of a text ends, from its first eleven characters. -/
def dateLength (cs : List Char) : Option Nat :=
  let len := cs.length
  let digitAt (i : Nat) : Bool := (cs[i]?.map Char.isDigit).getD false
  if len < 7 then none
  else if len = 7 then some 7
  else if cs[4]? = some '-' then
    if cs[5]? = some 'W' then
      if cs[8]? = some '-' then
        if len = 9 then none
        else if digitAt 10 then some 8
        else some 10
      else some 8
    else some 10
  else if cs[4]? = some 'W' then
    let run := ((cs.drop 7).takeWhile Char.isDigit).length + 7
    if run < 9 then some run else if run % 2 = 0 then some 7 else some 8
  else some 8

/-- The day number of a date text. -/
def readDate (cs : List Char) : Option Nat := do
  let (year, cs) ← takeNumber 4 cs
  let hyphens := cs.head? = some '-'
  let cs := if hyphens then cs.tail else cs
  match cs with
  | 'W' :: cs =>
    let (week, cs) ← takeNumber 2 cs
    if cs.isEmpty then ofWeekDate? year week 1
    else
      let cs ← if hyphens then (if cs.head? = some '-' then some cs.tail else none) else some cs
      let (weekday, _) ← takeNumber 1 cs
      ofWeekDate? year week weekday
  | cs =>
    let (month, cs) ← takeNumber 2 cs
    let cs ← if hyphens then (if cs.head? = some '-' then some cs.tail else none) else some cs
    let (d, rest) ← takeNumber 2 cs
    let date : Date := ⟨year, month, d⟩
    if rest.isEmpty && date.isValid then some (dayOf date) else none

/-- Whether a text goes on: a null character counts as its end, whatever follows. -/
def goesOn (cs : List Char) : Bool := cs.head?.any (· ≠ '\x00')

/-- The fraction of a second: up to six digits count, further digits are passed over. Says whether
anything is left after them. -/
def readFraction (cs : List Char) : Option (Nat × Bool) := do
  let n := min cs.length 6
  let (v, rest) ← takeNumber n cs
  some (v * Nat.pow 10 (6 - n), goesOn (rest.dropWhile Char.isDigit))

/-- What a clock text gives: hours, minutes and seconds as far as they are written, microseconds,
and whether characters are left unread. -/
structure ClockRead where
  parts : List Nat
  micros : Nat
  left : Bool

/-- Hours, minutes or seconds of a clock text; zero if not written. -/
def ClockRead.part (r : ClockRead) (i : Nat) : Nat := r.parts.getD i 0

/-- Reads hours, minutes, seconds and a fraction. `parts` holds what has been read, and `colons`
whether colons separate the parts, which the first separator decides. One more ASCII character may
stand at the end. -/
def readClock : Nat → List Nat → Bool → List Char → Option ClockRead
  | 0, parts, _, cs => (readFraction cs).map fun (us, left) => ⟨parts, us, left⟩
  | todo + 1, parts, colons, cs => do
    let (v, rest) ← takeNumber 2 cs
    let parts := parts ++ [v]
    match rest with
    | [] => some ⟨parts, 0, false⟩
    | c :: more =>
      if more.isEmpty && c.toNat < 0x80 then some ⟨parts, 0, goesOn rest⟩ else
      let colons := if todo = 2 then c = ':' else colons
      if colons && c = ':' then readClock todo parts colons more
      else if c = '.' || c = ',' then (readFraction more).map fun (us, left) => ⟨parts, us, left⟩
      else if !colons then readClock todo parts colons rest
      else none

/-- Whether a character starts an offset. -/
def startsOffset (c : Char) : Bool := c = '+' || c = '-' || c = 'Z'

/-- The offset written by a text that starts with its sign; less than a day. -/
def readOffset (cs : List Char) : Option Int :=
  match cs with
  | 'Z' :: rest => if goesOn rest then none else some 0
  | sign :: rest => do
    let r ← readClock 3 [] false rest
    if r.left then none
    else
      let s : Int := ((r.part 0 * 60 + r.part 1) * 60 + r.part 2 : Nat)
      let total := if s = 0 then 0 else s * second + r.micros
      if total < day then some (if sign = '-' then -total else total) else none
  | [] => none

/-- The time of day and the offset written by a text. -/
def readTime (cs : List Char) : Option (TimeOfDay × Option Int) := do
  let r ← readClock 3 [] false (cs.takeWhile (!startsOffset ·))
  let t : TimeOfDay := ⟨r.part 0, r.part 1, r.part 2, r.micros⟩
  let tail := cs.dropWhile (!startsOffset ·)
  let offset ←
    if tail.isEmpty then (if r.left then none else some none)
    else (readOffset tail).map some
  if t.isValid then some (t, offset) else none

/-- The moment written by a text in one of the formats of ISO 8601. -/
def Moment.ofIso? (s : String) : Option Moment := do
  let cs := s.toList
  let n ← dateLength cs
  let d ← readDate (cs.take n)
  match cs.drop n with
  | [] => some ⟨d * day, none⟩
  | _ :: time =>
    let (t, offset) ← readTime time
    some ⟨d * day + t.micros, offset⟩

end Time
end Cadence
