/-
# Parts and lines of texts

A text is split into the parts between the occurrences of a character. There is one part more than
there are occurrences; parts may be empty.

Texts that people write end their lines in one of three ways. `unifyNewlines` makes a line feed of
each: of a carriage return with a line feed after it, and of a carriage return alone.

Key definitions: `splitOn`, `hasPair`, `unifyNewlines`.
-/
namespace Cadence
namespace Text

/-- The parts of a text between the occurrences of a character. -/
def splitOn (c : Char) (s : String) : List String := (s.toList.splitOn c).map String.ofList

/-- Whether a character stands next to itself in a text. -/
def hasPair (c : Char) (s : String) : Bool :=
  (s.toList.zip s.toList.tail).any fun (a, b) => a = c && b = c

/-- Characters with a line feed at every line end. -/
def unifyNewlineChars : List Char → List Char
  | [] => []
  | '\r' :: '\n' :: rest => '\n' :: unifyNewlineChars rest
  | c :: rest => (if c = '\r' then '\n' else c) :: unifyNewlineChars rest

/-- A text with a line feed at every line end. -/
def unifyNewlines (s : String) : String := String.ofList (unifyNewlineChars s.toList)

end Text
end Cadence
