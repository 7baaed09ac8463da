/-
# Reading texts, truth values and numbers

Texts must be texts. A truth value may also be written as a one or a zero or in a word, an integer
as a number without a fraction or in figures, and a number in figures. Figures may have blanks
around them, a sign, leading zeros and single underscores between digits; an integer may also end
in a point and zeros. An integer that is written as a number fits into a word of 64 bits, and one in
figures has at most 4300 of them.

Key definitions: `Decode.text`, `Decode.truth`, `Decode.integer`, `Decode.number`.
-/
import Cadence.Decode.Checked

namespace Cadence
namespace Decode

/-- A text without halves of pairs. -/
def text : Json → Checked String
  | .str s => if Text.Half.isIn s then .fail .brokenText else .ok s
  | _ => .fail .notText

/-- A truth value in a word of any case. -/
def truthOfText? (s : String) : Option Bool :=
  let w := s.toLower
  if ["0", "off", "f", "false", "n", "no"].contains w then some false
  else if ["1", "on", "t", "true", "y", "yes"].contains w then some true
  else none

/-- Half the number of values of a word of 64 bits. -/
def wordHalf : Int := Nat.pow 2 63

/-- The integer that a number is; its size lies below `wordHalf`. -/
def integerOfNumber? (x : Binary64) : Option Int :=
  if x.gtInt (-wordHalf) && x.ltInt wordHalf then x.toInt? else none

/-- A truth value. A number other than one and zero cannot be read as one; a number that is no
integer of a word is none at all. -/
def truth : Json → Checked Bool
  | .bool b => .ok b
  | .int 0 => .ok false
  | .int 1 => .ok true
  | .int i => .fail (if -wordHalf ≤ i && i < wordHalf then .unreadableTruth else .notTruth)
  | .float x =>
    match integerOfNumber? x with
    | some 0 => .ok false
    | some 1 => .ok true
    | some _ => .fail .unreadableTruth
    | none => .fail .notTruth
  | .str s => .ofOption .unreadableTruth (truthOfText? s)
  | _ => .fail .notTruth

/-- Blanks around figures: those of Unicode's white space property. -/
def isWhiteSpace (c : Char) : Bool :=
  let n := c.toNat
  (9 ≤ n && n ≤ 13) || n = 32 || n = 0x85 || n = 0xA0 || n = 0x1680 || (0x2000 ≤ n && n ≤ 0x200A) ||
    n = 0x2028 || n = 0x2029 || n = 0x202F || n = 0x205F || n = 0x3000

/-- Figures without the blanks around them. -/
def bareFigures (s : String) : List Char :=
  ((s.toList.dropWhile isWhiteSpace).reverse.dropWhile isWhiteSpace).reverse

/-- The number written in digits, at least one and nothing else. -/
def digitsValue? (cs : List Char) : Option Nat :=
  if cs.isEmpty || !cs.all Char.isDigit then none
  else some (cs.foldl (fun n c => n * 10 + (c.toNat - '0'.toNat)) 0)

/-- Digits without the underscores between them, unless one stands at an end or next to another. -/
def withoutUnderscores (cs : List Char) : Option (List Char) :=
  let doubled := (cs.zip cs.tail).any fun (a, b) => a = '_' && b = '_'
  if cs.head? = some '_' || cs.getLast? = some '_' || doubled then none
  else some (cs.filter (· ≠ '_'))

/-- Digits without a point and zeros at their end. -/
def withoutZeroFraction (cs : List Char) : List Char :=
  let zeros := (cs.dropWhile (· ≠ '.')).drop 1
  if !zeros.isEmpty && zeros.all (· = '0') then cs.takeWhile (· ≠ '.') else cs

/-- Digits after leading zeros, among which underscores may stand. One zero is kept before a point
and at the end of the digits. A minus sign may follow the zeros. -/
def afterLeadingZeros : Char → List Char → Option (List Char)
  | last, [] => some [last]
  | last, c :: rest =>
    if c = '0' || c = '_' then afterLeadingZeros c rest
    else if c.isDigit || c = '-' then some (c :: rest)
    else if c = '.' then some (last :: c :: rest)
    else none

/-- Digits without leading zeros. -/
def withoutLeadingZeros : List Char → Option (List Char)
  | '0' :: cs => afterLeadingZeros '0' cs
  | c :: cs => if c.isDigit || c = '-' then some (c :: cs) else none
  | [] => none

/-- The most figures that an integer may have, its sign among them. -/
def mostFigures : Nat := 4300

/-- An integer in figures with a minus sign or none, and no zeros before other digits. -/
def signedDigits (figures : List Char) : Checked Int :=
  let (negative, ds) := match figures with
    | '-' :: ds => (true, ds)
    | ds => (false, ds)
  let leading := figures.length - (ds.dropWhile Char.isDigit).length
  if ds.head? = some '0' && 1 < ds.length then .fail .unreadableInteger
  else if mostFigures < leading then .fail .hugeInteger
  else .ofOption .unreadableInteger
    ((digitsValue? ds).map fun n => if negative then -(n : Int) else n)

/-- Figures that an integer is read from: a minus sign or none, and digits without leading zeros, a
fraction of zeros and underscores. -/
def integerFigures? (s : String) : Option (List Char) :=
  let bare (cs : List Char) : Option (List Char) :=
    (withoutLeadingZeros cs).bind fun cs => withoutUnderscores (withoutZeroFraction cs)
  match bareFigures s with
  | '+' :: '-' :: _ => none
  | '+' :: cs => bare cs
  | '-' :: cs => (bare cs).map ('-' :: ·)
  | cs => bare cs

/-- An integer in figures. -/
def integerOfText (s : String) : Checked Int :=
  match integerFigures? s with
  | some cs => signedDigits cs
  | none => .fail .unreadableInteger

/-- An integer. -/
def integer : Json → Checked Int
  | .int i => .ok i
  | .bool b => .ok (if b then 1 else 0)
  | .float x =>
    match x with
    | .finite .. =>
      if x.toInt?.isNone then .fail .fractional else .ofOption .hugeInteger (integerOfNumber? x)
    | _ => .fail .endless
  | .str s => integerOfText s
  | _ => .fail .notInteger

/-- The exponent of figures, zero if there is none. -/
def exponentOf? : List Char → Option Int
  | [] => some 0
  | c :: cs =>
    if c = 'e' || c = 'E' then
      match cs with
      | '-' :: ds => (digitsValue? ds).map fun n => -n
      | '+' :: ds => (digitsValue? ds).map Int.ofNat
      | ds => (digitsValue? ds).map Int.ofNat
    else none

/-- A number in figures without blanks and underscores, or one of the words for a number that is
not finite. -/
def plainNumber? (cs : List Char) : Option Binary64 :=
  let (negative, cs) := match cs with
    | '-' :: rest => (true, rest)
    | '+' :: rest => (false, rest)
    | rest => (false, rest)
  let word := (String.ofList cs).toLower
  if word = "inf" || word = "infinity" then some (.infinite negative)
  else if word = "nan" then some .nan
  else
    let whole := cs.takeWhile Char.isDigit
    let afterWhole := cs.dropWhile Char.isDigit
    let (fraction, rest) := match afterWhole with
      | '.' :: ds => (ds.takeWhile Char.isDigit, ds.dropWhile Char.isDigit)
      | ds => ([], ds)
    match digitsValue? (whole ++ fraction), exponentOf? rest with
    | some n, some e => some (Binary64.ofDecimal negative n (e - fraction.length))
    | _, _ => none

/-- A number in figures. -/
def numberOfText? (s : String) : Option Binary64 :=
  match plainNumber? (bareFigures s) with
  | some x => some x
  | none => (withoutUnderscores s.toList).bind plainNumber?

/-- A number. -/
def number : Json → Checked Binary64
  | .float x => .ok x
  | .int i => if (Binary64.ofInt i).isFinite then .ok (.ofInt i) else .fail .notNumber
  | .bool b => .ok (Binary64.ofInt (if b then 1 else 0))
  | .str s => .ofOption .unreadableNumber (numberOfText? s)
  | _ => .fail .notNumber

end Decode
end Cadence
