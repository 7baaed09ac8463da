/-
# Lead tokens in message texts

A message may hold tokens such as `lead.name` between double braces, which stand for the name, the
email address and the phone number of the lead. Letters may be of either case, blanks may stand next
to the braces, and a point or an underscore joins the two words. `Lead.render` replaces the tokens
from left to right and does not look into what it has put in.

The letter i is also recognised in its dotted capital and its dotless small form. A token that is
written with one of these names no field of the lead and cannot be rendered.

Key definitions: `Token`, `readToken?`, `Lead.render`.
-/
import Cadence.Lead.Basic

namespace Cadence

/-- The field of a lead that a token stands for. -/
inductive TokenField where
  | name
  | email
  | phone
  deriving Repr, DecidableEq, Inhabited

namespace TokenField

/-- The word for a field. -/
def word : TokenField → List Char
  | name => ['n', 'a', 'm', 'e']
  | email => ['e', 'm', 'a', 'i', 'l']
  | phone => ['p', 'h', 'o', 'n', 'e']

/-- The value of a field, empty where it is not known. -/
def value (lead : Lead) : TokenField → String
  | name => lead.name.getD ""
  | email => lead.email.getD ""
  | phone => lead.phone.getD ""

end TokenField

/-- A token as it stands in a text: the field it stands for and the word it is written with. -/
structure Token where
  field : TokenField
  written : List Char
  deriving Repr, DecidableEq, Inhabited

/-- Whether a character is a form of a small letter: the letter, its capital, or a further form of
the letter i. -/
def isFormOf (letter c : Char) : Bool :=
  c = letter || c = letter.toUpper ||
    (letter = 'i' && (c = Char.ofNat 0x130 || c = Char.ofNat 0x131))

/-- What follows a word at the start of a text, if the word is there in any form, and how it is
written. -/
def readWord? : List Char → List Char → Option (List Char × List Char)
  | [], rest => some ([], rest)
  | _, [] => none
  | letter :: word, c :: rest =>
    if isFormOf letter c then (readWord? word rest).map fun (written, rest) => (c :: written, rest)
    else none

/-- What follows the braces at the start of a text, and the blanks before or after them. -/
def readOpening? : List Char → Option (List Char)
  | '{' :: '{' :: rest => some (rest.dropWhile Text.isBlank)
  | _ => none

/-- What follows blanks and closing braces at the start of a text. -/
def readClosing? (cs : List Char) : Option (List Char) :=
  match cs.dropWhile Text.isBlank with
  | '}' :: '}' :: rest => some rest
  | _ => none

/-- The rest of a token of one field after its first word. -/
def readField? (field : TokenField) (cs : List Char) : Option (Token × List Char) := do
  let (written, rest) ← readWord? field.word cs
  some (⟨field, written⟩, ← readClosing? rest)

/-- The token at the start of a text, and what follows it. -/
def readToken? (cs : List Char) : Option (Token × List Char) := do
  let rest ← readOpening? cs
  let (_, rest) ← readWord? ['l', 'e', 'a', 'd'] rest
  match rest with
  | joint :: rest =>
    if joint = '.' || joint = '_' then
      (readField? .name rest).or ((readField? .email rest).or (readField? .phone rest))
    else none
  | [] => none

namespace Token

/-- The written word in small letters. -/
def lowered (t : Token) : String := Text.lower (String.ofList t.written)

/-- What a token stands for, or the word it is written with in small letters if that is no field's
word. -/
def value (lead : Lead) (t : Token) : Except String String :=
  if t.lowered.toList = t.field.word then .ok (t.field.value lead) else .error t.lowered

end Token

namespace Lead

/-- A text with its tokens replaced, as many steps being enough as the text has characters. -/
def renderChars (lead : Lead) : Nat → List Char → Except String (List Char)
  | 0, cs => .ok cs
  | _, [] => .ok []
  | steps + 1, c :: cs =>
    match readToken? (c :: cs) with
    | some (token, rest) => do
      let value ← token.value lead
      return value.toList ++ (← renderChars lead steps rest)
    | none => do return c :: (← renderChars lead steps cs)

/-- A text with its tokens replaced by what they stand for, or the word of the first token that
stands for nothing. -/
def render (lead : Lead) (text : String) : Except String String :=
  (lead.renderChars text.length text.toList).map String.ofList

end Lead
end Cadence
