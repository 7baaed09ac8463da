/-
# Lower-casing

`lower` writes a text in lower case. A character with a lower-case form becomes it; the capital I
with a dot becomes an `i` and a combining dot; a capital sigma becomes a final sigma at the end of
a word and a plain one elsewhere, where a word is read over the case-ignorable characters.

Key definitions: `lowerChar`, `lowerChars`, `lower`.
-/
import Cadence.Text.Lower.Table

namespace Cadence
namespace Text

/-- The lower-case form of a character that has one of a single character; else the character. -/
def lowerChar (c : Char) : Char :=
  match lowerRuns.find? (·.mem c.toNat) with
  | some r => Char.ofNat (c.toNat + r.shift).toNat
  | none => c

/-- Whether the nearest character that is not case-ignorable is cased. -/
def nextIsCased : List Char → Bool
  | [] => false
  | c :: rest => if ignorableRanges.mem c.toNat then nextIsCased rest else casedRanges.mem c.toNat

/-- The lower-case form of a character, given what stands before it, nearest first, and after it. -/
def lowerAt (before : List Char) (c : Char) (after : List Char) : List Char :=
  if c.toNat = 0x130 then ['i', Char.ofNat 0x307]
  else if c.toNat = 0x3a3 then
    [Char.ofNat (if nextIsCased before && !nextIsCased after then 0x3c2 else 0x3c3)]
  else [lowerChar c]

/-- The lower-case form of a text that stands after `before`. -/
def lowerFrom (before : List Char) : List Char → List Char
  | [] => []
  | c :: rest => lowerAt before c rest ++ lowerFrom (c :: before) rest

/-- The lower-case form of characters. -/
def lowerChars (cs : List Char) : List Char := lowerFrom [] cs

/-- The lower-case form of a text. -/
def lower (s : String) : String := String.ofList (lowerChars s.toList)

end Text
end Cadence
