/-
# Patterns of file names

In a pattern a star stands for any characters, a question mark for any one character, and a set in
square brackets for one of the characters or ranges in it, or for one that is not if the set starts
with an exclamation mark. A closing bracket that comes first is in the set, and so is a hyphen with
nothing before or after it. A range that runs backward is empty and is left out before the start of
the set is looked at. A bracket that is not closed stands for itself.

Key definitions: `Glob.Part`, `Glob.parse`, `Glob.accepts`.
-/
namespace Cadence
namespace Glob

/-- A part of a pattern. -/
inductive Part where
  | many
  | one
  | exact (c : Char)
  | set (negated : Bool) (ranges : List (Char × Char))
  deriving Repr, DecidableEq, Inhabited

/-- The text of a set cut at the hyphens that make ranges: one makes a range unless it stands among
the first `skip` characters. As many cuts are possible as there are characters. -/
def cut : Nat → Nat → List Char → List (List Char)
  | 0, _, cs => [cs]
  | cuts + 1, skip, cs =>
    match (cs.drop skip).findIdx? (· = '-') with
    | none => [cs]
    | some i => cs.take (skip + i) :: cut cuts 2 (cs.drop (skip + i + 1))

/-- The pieces of a set, a hyphen at its end belonging to the last piece. -/
def keepFinalHyphen : List (List Char) → List (List Char)
  | [] => []
  | [cs] => [cs]
  | [cs, []] => [cs ++ ['-']]
  | cs :: rest => cs :: keepFinalHyphen rest

/-- The pieces of a set without the ends of ranges that run backward. -/
def dropEmptyRanges : List (List Char) → List (List Char)
  | [] => []
  | cs :: rest =>
    match dropEmptyRanges rest with
    | [] => [cs]
    | ds :: more =>
      match cs.getLast?, ds.head? with
      | some low, some high =>
        if high < low then (cs.dropLast ++ ds.tail) :: more else cs :: ds :: more
      | _, _ => cs :: ds :: more

/-- The ranges of pieces: each character by itself, and from the end of a piece to the start of the
next one. -/
def rangesOf : List (List Char) → List (Char × Char)
  | [] => []
  | cs :: rest =>
    cs.map (fun c => (c, c)) ++
      (match cs.getLast?, rest.head?.bind List.head? with
        | some low, some high => [(low, high)]
        | _, _ => []) ++ rangesOf rest

/-- The part of a pattern that a set with a text between its brackets is. -/
def setPart (text : List Char) : Part :=
  let skip := if text.head? = some '!' then 2 else 1
  match dropEmptyRanges (keepFinalHyphen (cut text.length skip text)) with
  | ['!'] :: piece :: rest => .set true (('-', '-') :: rangesOf (piece :: rest))
  | ('!' :: cs) :: rest => .set true (rangesOf (cs :: rest))
  | pieces => .set false (rangesOf pieces)

/-- The text of a set that starts here and what follows it, if it is closed. -/
def readSet (cs : List Char) : Option (List Char × List Char) :=
  let (mark, body) := match cs with
    | '!' :: rest => (['!'], rest)
    | rest => ([], rest)
  let (bracket, body) := match body with
    | ']' :: rest => ([']'], rest)
    | rest => ([], rest)
  match body.dropWhile (· ≠ ']') with
  | _ :: rest => some (mark ++ bracket ++ body.takeWhile (· ≠ ']'), rest)
  | [] => none

/-- The parts of a pattern, as many steps being enough as it has characters. -/
def parseChars : Nat → List Char → List Part
  | 0, _ => []
  | _, [] => []
  | steps + 1, '*' :: rest => .many :: parseChars steps rest
  | steps + 1, '?' :: rest => .one :: parseChars steps rest
  | steps + 1, '[' :: rest =>
    match readSet rest with
    | some (text, rest) => setPart text :: parseChars steps rest
    | none => .exact '[' :: parseChars steps rest
  | steps + 1, c :: rest => .exact c :: parseChars steps rest

/-- The parts of a pattern. -/
def parse (pattern : String) : List Part := parseChars pattern.length pattern.toList

/-- Whether some end of a text is accepted. -/
def someEnd (accept : List Char → Bool) : List Char → Bool
  | [] => accept []
  | c :: cs => accept (c :: cs) || someEnd accept cs

/-- Whether a character is in one of some ranges. -/
def inRanges (ranges : List (Char × Char)) (c : Char) : Bool :=
  ranges.any fun (low, high) => low ≤ c && c ≤ high

/-- Whether a text consists of parts. -/
def acceptsChars : List Part → List Char → Bool
  | [], cs => cs.isEmpty
  | .many :: parts, cs => someEnd (acceptsChars parts) cs
  | _ :: _, [] => false
  | .one :: parts, _ :: cs => acceptsChars parts cs
  | .exact d :: parts, c :: cs => c = d && acceptsChars parts cs
  | .set negated ranges :: parts, c :: cs =>
    (inRanges ranges c != negated) && acceptsChars parts cs

/-- Whether a file name matches a pattern. -/
def accepts (pattern name : String) : Bool := acceptsChars (parse pattern) name.toList

end Glob
end Cadence
