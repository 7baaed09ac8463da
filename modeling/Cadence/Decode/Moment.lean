/-
# Reading moments

A moment may be written as a date and a time with a `T`, a blank or an underscore between them, as
a date alone, or as a count of seconds since the start of 1970 in universal time. Seconds and a
fraction may be left out of a time; a fraction is cut off after six digits. An offset is `Z` or
hours and minutes. A count beyond 20 000 000 000 is one of milliseconds. The year 0 can be written
but there is no moment in it.

What is reported about a text that is no moment is what keeps it from being a date.

Key definitions: `Decode.moment`, `Decode.momentOfText?`, `Decode.Count`.
-/
import Cadence.Decode.Scalar
import Cadence.Time.Moment

namespace Cadence
namespace Decode

open Time

/-- The bytes of a text, each as the character with its number. -/
def bytesOf (s : String) : List Char := s.toUTF8.toList.map fun b => Char.ofNat b.toNat

/-- The number in the first two characters, if they are digits, and the rest. -/
def twoDigits? : List Char → Option (Nat × List Char)
  | a :: b :: rest => (digitsValue? [a, b]).map (·, rest)
  | _ => none

/-- The date at the start of a text and what follows it, or why there is none. -/
def dateAtStart (cs : List Char) : Except String (Date × List Char) := do
  if cs.length < 10 then throw "input is too short"
  let year ← (digitsValue? (cs.take 4)).elim (throw "invalid character in year") pure
  if cs[4]? != some '-' then throw "invalid date separator, expected `-`"
  let month ← (digitsValue? ((cs.drop 5).take 2)).elim (throw "invalid character in month") pure
  if cs[7]? != some '-' then throw "invalid date separator, expected `-`"
  let day ← (digitsValue? ((cs.drop 8).take 2)).elim (throw "invalid character in day") pure
  if month < 1 || 12 < month then throw "month value is outside expected range of 1-12"
  if day < 1 || daysInMonth year month < day then throw "day value is outside expected range"
  pure (⟨year, month, day⟩, cs.drop 10)

/-- The microseconds of a fraction in digits, which are cut off after six. -/
def fractionMicros (ds : List Char) : Nat :=
  (digitsValue? ((ds ++ List.replicate 6 '0').take 6)).getD 0

/-- The seconds and the fraction that may follow hours and minutes, and the rest. -/
def secondsAtStart : List Char → Option (Nat × Nat × List Char)
  | ':' :: cs => do
    let (s, rest) ← twoDigits? cs
    match rest with
    | c :: ds =>
      if c = '.' || c = ',' then
        let digits := ds.takeWhile Char.isDigit
        if digits.isEmpty then none else some (s, fractionMicros digits, ds.dropWhile Char.isDigit)
      else some (s, 0, c :: ds)
    | [] => some (s, 0, [])
  | cs => some (0, 0, cs)

/-- An offset in hours and minutes with a sign, as microseconds. -/
def signedOffset? (negative : Bool) (cs : List Char) : Option Int := do
  let (h, rest) ← twoDigits? cs
  let (m, rest) ← twoDigits? (match rest with | ':' :: r => r | r => r)
  if rest != [] || 60 ≤ m || 24 ≤ h then none
  else some ((if negative then -1 else 1) * ((h * 60 + m : Nat) : Int) * minute)

/-- The offset that ends a text, nothing being no offset. A minus sign may also be the proper
character for it, which takes three bytes. -/
def offsetAtEnd? : List Char → Option (Option Int)
  | [] => some none
  | ['Z'] | ['z'] => some (some 0)
  | '+' :: cs => (signedOffset? false cs).map some
  | '-' :: cs => (signedOffset? true cs).map some
  | a :: b :: c :: cs =>
    if [a, b, c] = bytesOf (String.singleton (Char.ofNat 0x2212)) then
      (signedOffset? true cs).map some
    else none
  | _ => none

/-- What is written by a date and a time with a separator between them. -/
structure Written where
  date : Date
  time : TimeOfDay
  offset : Option Int
  deriving Repr, DecidableEq, Inhabited

/-- A date and a time with a separator between them. -/
def momentOfText? (cs : List Char) : Option Written := do
  let (date, rest) ← (dateAtStart cs).toOption
  match rest with
  | c :: rest =>
    if !(['T', 't', ' ', '_'].contains c) then none
    let (h, rest) ← twoDigits? rest
    match rest with
    | ':' :: rest =>
      let (m, rest) ← twoDigits? rest
      let (s, us, rest) ← secondsAtStart rest
      let offset ← offsetAtEnd? rest
      let time : TimeOfDay := ⟨h, m, s, us⟩
      if time.isValid then some ⟨date, time, offset⟩ else none
    | _ => none
  | [] => none

/-- What is reported about a moment in the year 0. -/
def yearZero : Defect := .momentOutOfRange "year 0 is out of range"

/-- The moment that is written, unless its year is 0. -/
def Written.moment (w : Written) : Checked Moment :=
  if w.date.year = 0 then .fail yearZero else .ok (Moment.ofParts w.date w.time w.offset)

/-- The start of 1970 as a reading of a clock at offset zero. -/
def epoch : Int := 62135596800 * second

/-- The greatest count that is one of seconds. -/
def secondsLimit : Int := 20000000000

/-- A count since the start of 1970 in universal time. -/
inductive Count where
  | whole (n : Int)
  | binary (x : Binary64)
  deriving Repr, DecidableEq, Inhabited

/-- Whether a count is whole. -/
def Count.isWhole : Count → Bool
  | .whole _ => true
  | .binary _ => false

/-- The microseconds of a number of seconds, rounded to the nearest from the whole second below,
half a microsecond up. -/
def microsOfSeconds (num : Int) (den : Nat) : Int :=
  let whole := num / (den : Int)
  let part := Binary64.ofRatio false (num - whole * den).toNat den
  match (part.mul (.ofInt 1000000)).signedRatio with
  | some (n, d) => whole * second + (2 * n + d) / (2 * (d : Int))
  | none => whole * second

/-- The microseconds of a count, which may lie before or after all moments. -/
def Count.micros : Count → Except String Int
  | .whole n => .ok (n * (if n.natAbs ≤ secondsLimit.natAbs then second else 1000))
  | .binary x =>
    match x.signedRatio with
    | some (num, den) =>
      if x.gtInt secondsLimit || x.ltInt (-secondsLimit) then
        match (Binary64.ofRatio (num < 0) num.natAbs (den * 1000)).signedRatio with
        | some (num, den) => .ok (microsOfSeconds num den)
        | none => .error "NaN values not permitted"
      else .ok (microsOfSeconds num den)
    | none =>
      match x with
      | .infinite false => .error "dates after 9999 are not supported as unix timestamps"
      | .infinite true => .error "dates before 0000 are not supported as unix timestamps"
      | _ => .error "NaN values not permitted"

/-- What a clock at offset zero reads at a count, from the start of the year 0 on. -/
def Count.reading (c : Count) : Except String Int := do
  let reading := epoch + (← c.micros)
  if endOfTime ≤ reading then throw "dates after 9999 are not supported as unix timestamps"
  if reading < -366 * day then throw "dates before 0000 are not supported as unix timestamps"
  pure reading

/-- The moment of a reading of a clock at offset zero. -/
def momentOfReading (reading : Int) : Checked Moment :=
  if reading < 0 then .fail yearZero else .ok ⟨reading, some 0⟩

/-- The moment of a count. -/
def Count.moment (c : Count) : Checked Moment :=
  match c.reading with
  | .ok reading => momentOfReading reading
  | .error reason => .fail (.momentOutOfRange reason)

/-- The count in a text: an integer of a word, or a number that has nothing but digits before its
point. -/
def countOfText? (cs : List Char) : Option Count :=
  let (negative, bare) := match cs with
    | '-' :: r => (true, r)
    | '+' :: r => (false, r)
    | r => (false, r)
  match bare.dropWhile Char.isDigit with
  | [] => do
    let n ← digitsValue? bare
    if (n : Int) < wordHalf then some (.whole (if negative then -(n : Int) else n)) else none
  | '.' :: _ => (plainNumber? cs).map .binary
  | _ => none

/-- The moment of a text that is a date alone, or what keeps the text from being one: of a whole
count, that it lies too early or too late. -/
def dateOfString (cs : List Char) : Checked Moment :=
  match dateAtStart cs, (countOfText? cs).filter Count.isWhole |>.map Count.reading with
  | .ok (date, []), _ => Written.moment ⟨date, ⟨0, 0, 0, 0⟩, none⟩
  | _, some (.ok reading) => momentOfReading reading
  | _, some (.error reason) => .fail (.unreadableMoment reason)
  | .ok _, _ => .fail (.unreadableMoment "unexpected extra characters at the end of the input")
  | .error reason, _ => .fail (.unreadableMoment reason)

/-- A moment in a text, or what keeps the text from being a date. -/
def momentOfString (s : String) : Checked Moment :=
  let cs := bytesOf s
  match momentOfText? cs, (countOfText? cs).map Count.reading with
  | some w, _ => w.moment
  | none, some (.ok reading) => momentOfReading reading
  | none, _ => dateOfString cs

/-- A moment. -/
def moment : Json → Checked Moment
  | .str s => momentOfString s
  | .int i => if (Binary64.ofInt i).isFinite then (Count.whole i).moment else .fail .notMoment
  | .float x => (Count.binary x).moment
  | _ => .fail .notMoment

end Decode
end Cadence
