/-
# Bodies of messages

The body of a message is a text that should hold one JSON value. Its bytes say how it was encoded:
where one of the first two is zero, characters take two or four bytes each, of which the first or
the last is the lowest; else they have the usual form. A mark of the byte order at the start of the
usual form does not count.

Key definitions: `Body.characters`, `Json.parseBody`.
-/
import Cadence.Json.Parser

namespace Cadence
namespace Json
namespace Body

/-- Numbers of some bytes each, with the highest byte first; none if bytes are left over. -/
def words? (width : Nat) (bytes : List Nat) : Option (List Nat) :=
  if bytes.length % width = 0 then
    some ((List.range (bytes.length / width)).map fun i =>
      ((bytes.drop (i * width)).take width).foldl (fun n b => n * 256 + b) 0)
  else none

/-- Numbers of some bytes each, with the lowest byte first. -/
def wordsReversed? (width : Nat) (bytes : List Nat) : Option (List Nat) :=
  (words? width bytes.reverse).map List.reverse

/-- The characters of words of 16 bits. -/
def ofWords : List Nat → List Char
  | [] => []
  | [n] => [Text.Half.charOf n]
  | n :: m :: rest =>
    if Text.Half.isFirst n && Text.Half.isSecond m then
      Text.Half.charOf (Text.Half.join n m) :: ofWords rest
    else Text.Half.charOf n :: ofWords (m :: rest)

/-- The characters of words of 32 bits, if they all are code points. -/
def ofLongWords? (words : List Nat) : Option (List Char) :=
  if words.all (· < 0x110000) then some (words.map Text.Half.charOf) else none

/-- The characters that bytes stand for, if their zeros say that characters take several bytes. -/
def wide? (bytes : List Nat) : Option (Option (List Char)) :=
  match bytes with
  | 0 :: 0 :: _ :: _ :: _ => some ((words? 4 bytes).bind ofLongWords?)
  | 0 :: _ :: _ :: _ :: _ => some ((words? 2 bytes).map ofWords)
  | _ :: 0 :: 0 :: 0 :: _ => some ((wordsReversed? 4 bytes).bind ofLongWords?)
  | _ :: 0 :: _ :: _ :: _ => some ((wordsReversed? 2 bytes).map ofWords)
  | [0, _] => some ((words? 2 bytes).map ofWords)
  | [_, 0] => some ((wordsReversed? 2 bytes).map ofWords)
  | _ => none

/-- The characters of a body, if they can be made out. -/
def characters (body : String) : Option (List Char) :=
  let cs := body.toList
  if (cs.take 2).contains (Char.ofNat 0) then
    (wide? (body.toUTF8.toList.map UInt8.toNat)).getD (some cs)
  else if cs.head? = some (Char.ofNat 0xfeff) then some cs.tail
  else some cs

end Body

/-- As many values may be open at once in a body. -/
def greatestDepth : Nat := 950

/-- Reads the body of a message as one value. -/
def parseBody (body : String) : Except ParseError Json :=
  match Body.characters body with
  | none => .error .undecodable
  | some cs => parse greatestDepth cs

end Json
end Cadence
