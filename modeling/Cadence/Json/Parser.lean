/-
# Reading JSON text

`Json.parse` reads one value from a text and says, for a text that is none, why not: at which
character the reader gave up, or that an integer has too many digits, or that too many values are
open at once. Besides the standard it takes the three words `NaN`, `Infinity` and `-Infinity` as
numbers. A number with a point or an exponent is binary64, rounded to nearest; any other is an
integer. Of two members with one key the later value stays, in the place of the first.

The readers work on a `Cursor`: the characters still to read and how many were read before them.
Recursion is on a bound that every nested value lowers; `parse` gives one that no text exceeds.

Key definitions: `Json.Cursor`, `Json.ParseError`, `Json.parseValue`, `Json.parse`.
-/
import Cadence.Json.Basic
import Cadence.Text.Half

namespace Cadence
namespace Json

/-- A place in a text: what is still to be read and the number of characters before it. -/
structure Cursor where
  rest : List Char
  position : Nat

namespace Cursor

/-- The cursor after its next character. -/
def advance (c : Cursor) : Cursor := ⟨c.rest.tail, c.position + 1⟩

/-- The cursor `n` characters further. -/
def skip (c : Cursor) (n : Nat) : Cursor := ⟨c.rest.drop n, c.position + n⟩

/-- Whether a character is white space between tokens. -/
def isSpace (ch : Char) : Bool := ch = ' ' || ch = '\t' || ch = '\n' || ch = '\r'

/-- The cursor after leading white space. -/
def skipSpaces (c : Cursor) : Cursor :=
  let blanks := c.rest.takeWhile isSpace
  c.skip blanks.length

/-- The cursor after a fixed word, if it stands there. -/
def word? (c : Cursor) (w : String) : Option Cursor :=
  if w.toList.isPrefixOf c.rest then some (c.skip w.length) else none

end Cursor

/-- Why a text is no value. -/
inductive ParseError where
  /-- The text stops being one at this character. -/
  | unexpected (position : Nat)
  /-- An integer has too many digits. -/
  | longInteger
  /-- Too many values are open at once, the last one a list or else an object. -/
  | tooDeep (isList : Bool)
  /-- The text is not encoded as it seems. -/
  | undecodable
  deriving Repr, DecidableEq, Inhabited

/-- The position at which a text stops being a value, if that is what is wrong with it. -/
def ParseError.position? : ParseError → Option Nat
  | unexpected position => some position
  | _ => none

/-- What a reader gives: a value and the cursor after it, or what is wrong. -/
abbrev Read (α : Type) := Except ParseError (α × Cursor)

/-- The value of a hexadecimal digit. -/
def hexDigit? (ch : Char) : Option Nat :=
  if '0' ≤ ch ∧ ch ≤ '9' then some (ch.toNat - 48)
  else if 'a' ≤ ch ∧ ch ≤ 'f' then some (ch.toNat - 87)
  else if 'A' ≤ ch ∧ ch ≤ 'F' then some (ch.toNat - 55)
  else none

/-- The number that four hexadecimal digits write. -/
def hex4? (cs : List Char) : Option Nat :=
  match cs with
  | a :: b :: c :: d :: _ =>
    match hexDigit? a, hexDigit? b, hexDigit? c, hexDigit? d with
    | some a, some b, some c, some d => some (((a * 16 + b) * 16 + c) * 16 + d)
    | _, _, _, _ => none
  | _ => none

/-- The character of a one-letter escape. -/
def simpleEscape? (ch : Char) : Option Char :=
  match ch with
  | '"' => some '"'
  | '\\' => some '\\'
  | '/' => some '/'
  | 'b' => some (Char.ofNat 8)
  | 'f' => some (Char.ofNat 12)
  | 'n' => some '\n'
  | 'r' => some '\r'
  | 't' => some '\t'
  | _ => none

/-- The code point after the `u` of an escape and the number of characters it takes there: four
digits, or a whole surrogate pair, which counts only where the text goes on after it. -/
def unicodeEscape? (afterU : List Char) : Option (Char × Nat) :=
  match hex4? afterU with
  | none => none
  | some hi =>
    if Text.Half.isFirst hi then
      match afterU.drop 4 with
      | '\\' :: 'u' :: more =>
        match hex4? more with
        | some lo =>
          if Text.Half.isSecond lo && !(more.drop 4).isEmpty then
            some (Text.Half.charOf (Text.Half.join hi lo), 10)
          else some (Text.Half.charOf hi, 4)
        | none => some (Text.Half.charOf hi, 4)
      | _ => some (Text.Half.charOf hi, 4)
    else some (Text.Half.charOf hi, 4)

/-- Reads a string from after its opening quote, which stands at `start`. `out` holds the characters
read so far, last first. -/
def parseString (start : Nat) : Nat → Cursor → List Char → Read String
  | 0, _, _ => .error (.unexpected start)
  | fuel + 1, c, out =>
    match c.rest with
    | [] => .error (.unexpected start)
    | '"' :: _ => .ok (String.ofList out.reverse, c.advance)
    | '\\' :: [] => .error (.unexpected start)
    | '\\' :: 'u' :: afterU =>
      if (afterU.drop 4).isEmpty then .error (.unexpected (c.position + 1))
      else
        match unicodeEscape? afterU with
        | some (ch, n) => parseString start fuel (c.skip (2 + n)) (ch :: out)
        | none => .error (.unexpected (c.position + 1))
    | '\\' :: e :: _ =>
      match simpleEscape? e with
      | some ch => parseString start fuel (c.skip 2) (ch :: out)
      | none => .error (.unexpected c.position)
    | ch :: _ =>
      if ch.toNat < 0x20 then .error (.unexpected c.position)
      else parseString start fuel c.advance (ch :: out)

/-- The number that decimal digits write. -/
def digitsValue (ds : List Char) : Nat := ds.foldl (fun n d => n * 10 + (d.toNat - 48)) 0

/-- The digits at the front of a text. -/
def leadingDigits (cs : List Char) : List Char := cs.takeWhile Char.isDigit

/-- The digits of a fraction part, point included in the count taken. -/
def fractionPart (cs : List Char) : List Char × Nat :=
  match cs with
  | '.' :: more =>
    let ds := leadingDigits more
    if ds.isEmpty then ([], 0) else (ds, ds.length + 1)
  | _ => ([], 0)

/-- The exponent part: its value and the number of characters it takes, none if it is unfinished. -/
def exponentPart? (cs : List Char) : Option (Int × Nat) :=
  match cs with
  | e :: more =>
    if e = 'e' ∨ e = 'E' then
      let (negative, signWidth, ds) :=
        match more with
        | '-' :: r => (true, 1, leadingDigits r)
        | '+' :: r => (false, 1, leadingDigits r)
        | r => (false, 0, leadingDigits r)
      if ds.isEmpty then none
      else
        let n : Int := digitsValue ds
        some (if negative then -n else n, 1 + signWidth + ds.length)
    else none
  | [] => none

/-- As many digits may an integer have. -/
def greatestLength : Nat := 4300

/-- Reads a number that starts at the cursor. -/
def parseNumber (c : Cursor) : Read Json :=
  let (negative, cs) : Bool × List Char :=
    match c.rest with
    | '-' :: r => (true, r)
    | r => (false, r)
  let whole :=
    match cs with
    | '0' :: _ => ['0']
    | r => leadingDigits r
  if whole.isEmpty then .error (.unexpected c.position)
  else
    let afterWhole := cs.drop whole.length
    let (fraction, fractionWidth) := fractionPart afterWhole
    let afterFraction := afterWhole.drop fractionWidth
    let width := (if negative then 1 else 0) + whole.length + fractionWidth
    match exponentPart? afterFraction with
    | some (x, exponentWidth) =>
      .ok (.float (.ofDecimal negative (digitsValue (whole ++ fraction)) (x - fraction.length)),
        c.skip (width + exponentWidth))
    | none =>
      if fraction.isEmpty then
        if greatestLength < whole.length then .error .longInteger
        else
          let n : Int := digitsValue whole
          .ok (.int (if negative then -n else n), c.skip width)
      else
        .ok (.float (.ofDecimal negative (digitsValue (whole ++ fraction)) (-fraction.length)),
          c.skip width)

/-- Reads a fixed word or a number that starts at the cursor. -/
def parseScalar (c : Cursor) : Read Json :=
  match c.word? "null", c.word? "true", c.word? "false" with
  | some c', _, _ => .ok (.null, c')
  | _, some c', _ => .ok (.bool true, c')
  | _, _, some c' => .ok (.bool false, c')
  | none, none, none =>
    match c.word? "NaN", c.word? "Infinity", c.word? "-Infinity" with
    | some c', _, _ => .ok (.float .nan, c')
    | _, some c', _ => .ok (.float (.infinite false), c')
    | _, _, some c' => .ok (.float (.infinite true), c')
    | none, none, none => parseNumber c

mutual

/-- Reads one value that starts at the cursor, in which some values may be open at once. -/
def parseValue : Nat → Nat → Cursor → Read Json
  | 0, _, c => .error (.unexpected c.position)
  | fuel + 1, depth, c =>
    match c.rest with
    | '"' :: _ =>
      match parseString c.position fuel c.advance [] with
      | .error e => .error e
      | .ok (s, c) => .ok (.str s, c)
    | '[' :: _ =>
      match depth with
      | 0 => .error (.tooDeep true)
      | depth + 1 =>
        let c := c.advance.skipSpaces
        match c.rest with
        | ']' :: _ => .ok (.arr [], c.advance)
        | _ => parseItems fuel depth c []
    | '{' :: _ =>
      match depth with
      | 0 => .error (.tooDeep false)
      | depth + 1 =>
        let c := c.advance.skipSpaces
        match c.rest with
        | '}' :: _ => .ok (.obj [], c.advance)
        | _ => parseMembers fuel depth c []
    | _ => parseScalar c

/-- Reads the items of a list up to its end. `out` holds those read so far, last first. -/
def parseItems : Nat → Nat → Cursor → List Json → Read Json
  | 0, _, c, _ => .error (.unexpected c.position)
  | fuel + 1, depth, c, out =>
    match parseValue fuel depth c with
    | .error e => .error e
    | .ok (v, c) =>
      let c := c.skipSpaces
      match c.rest with
      | ']' :: _ => .ok (.arr (v :: out).reverse, c.advance)
      | ',' :: _ => parseItems fuel depth c.advance.skipSpaces (v :: out)
      | _ => .error (.unexpected c.position)

/-- Reads the members of an object up to its end. -/
def parseMembers : Nat → Nat → Cursor → Fields → Read Json
  | 0, _, c, _ => .error (.unexpected c.position)
  | fuel + 1, depth, c, out =>
    match c.rest with
    | '"' :: _ =>
      match parseString c.position fuel c.advance [] with
      | .error e => .error e
      | .ok (key, c) =>
        let c := c.skipSpaces
        match c.rest with
        | ':' :: _ =>
          match parseValue fuel depth c.advance.skipSpaces with
          | .error e => .error e
          | .ok (v, c) =>
            let c := c.skipSpaces
            let out := Fields.insert out key v
            match c.rest with
            | '}' :: _ => .ok (.obj out, c.advance)
            | ',' :: _ => parseMembers fuel depth c.advance.skipSpaces out
            | _ => .error (.unexpected c.position)
        | _ => .error (.unexpected c.position)
    | _ => .error (.unexpected c.position)

end

/-- Reads a whole text as one value in which some values may be open at once; white space may
surround it. -/
def parse (depth : Nat) (text : List Char) : Except ParseError Json :=
  match parseValue (2 * text.length + 2) depth (Cursor.skipSpaces ⟨text, 0⟩) with
  | .error e => .error e
  | .ok (v, c) =>
    let c := c.skipSpaces
    if c.rest.isEmpty then .ok v else .error (.unexpected c.position)

end Json
end Cadence
