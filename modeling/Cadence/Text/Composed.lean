/-
# Composed texts

A letter with marks can be written in several ways: as one character, or as a shorter letter and
marks after it. A text is composed if letters and marks stand together in one character wherever
there is one, and the marks that are left stand in the order of their classes. Every text has one
composed form: letters are taken apart, marks are put in order, and everything is put together.

Key definitions: `decomposed`, `ordered`, `composed`, `isComposed`.
-/
import Cadence.Text.Composed.Table

namespace Cadence
namespace Text

/-- The class of a mark; zero for any other character. -/
def markClass (c : Char) : Nat :=
  ((markClasses.find? fun r => r.first ≤ c.toNat && c.toNat ≤ r.last).map (·.order)).getD 0

/-- The shorter letter and the mark that a character stands for. -/
def parted? (c : Char) : Option (Char × Char) :=
  (compositions.find? (·.1 = c.toNat)).map fun (_, letter, mark) =>
    (Char.ofNat letter, Char.ofNat mark)

/-- The character that a letter and a mark make. -/
def joined? (letter mark : Char) : Option Char :=
  (compositions.find? fun m => m.2.1 = letter.toNat && m.2.2 = mark.toNat).map
    fun m => Char.ofNat m.1

/-- As often a character can be taken apart. -/
def greatestDepth : Nat := 2

/-- A character taken apart, at most a number of times. -/
def decomposedChar : Nat → Char → List Char
  | 0, c => [c]
  | depth + 1, c =>
    match parted? c with
    | some (letter, mark) => decomposedChar depth letter ++ [mark]
    | none => [c]

/-- A text with all characters taken apart. -/
def decomposed (cs : List Char) : List Char := cs.flatMap (decomposedChar greatestDepth)

/-- Puts a mark before those of its own or a greater class at the start of a text. -/
def insertMark (c : Char) : List Char → List Char
  | [] => [c]
  | d :: ds =>
    if markClass d ≠ 0 ∧ markClass d < markClass c then d :: insertMark c ds else c :: d :: ds

/-- A text with its marks in the order of their classes. Marks of one class keep their order, and
no mark goes past another character. -/
def ordered : List Char → List Char
  | [] => []
  | c :: cs => if markClass c = 0 then c :: ordered cs else insertMark c (ordered cs)

/-- A text in composition: what is done, the last letter, and the marks that could not be put
together with it. -/
structure Composition where
  done : List Char
  letter : Option Char
  marks : List Char

/-- The text as it stands. -/
def Composition.text (s : Composition) : List Char := s.done ++ s.letter.toList ++ s.marks

/-- Goes on with a character. A mark of the class of the mark before it is kept from the letter. -/
def Composition.add (s : Composition) (c : Char) : Composition :=
  let order := markClass c
  let apart : Composition :=
    if order = 0 then ⟨s.text, some c, []⟩ else { s with marks := s.marks ++ [c] }
  match s.letter with
  | none => apart
  | some letter =>
    let isBlocked := s.marks.getLast?.any fun m => order ≤ markClass m
    if isBlocked then apart
    else match joined? letter c with
      | some whole => { s with letter := some whole }
      | none => apart

/-- The composed form of a text. -/
def composed (cs : List Char) : List Char :=
  ((ordered (decomposed cs)).foldl Composition.add ⟨[], none, []⟩).text

/-- Whether a text is composed. -/
def isComposed (cs : List Char) : Bool := composed cs = cs

end Text
end Cadence
