/-
# Writing JSON text

`Json.compact` writes a value on one line, `Json.pretty` with two blanks for each level of nesting,
as the files of stored workflows hold it. Characters outside ASCII stand for themselves; quotes,
backslashes and control characters are escaped. Floats keep a point or an exponent, so they read
back as floats.

Key definitions: `Json.quote`, `Json.compact`, `Json.pretty`.
-/
import Cadence.Json.Basic
import Cadence.Number.Decimal

namespace Cadence
namespace Json

/-- Floats in stored files: positional from `1e-5` up to `1e16`, an exponent with its sign
beyond. -/
def storedLayout : Decimal.Layout :=
  { least := -4, most := 16, plusSign := true, exponentWidth := 1, pointZero := true,
    infinity := "Infinity", notANumber := "NaN" }

/-- A digit of a hexadecimal number, in lower case. -/
def hexChar (n : Nat) : Char := Char.ofNat (if n < 10 then 48 + n else 87 + n)

/-- The low digits of a number in base sixteen, `width` of them. -/
def hexDigits (width n : Nat) : List Char :=
  (List.range width).reverse.map fun i => hexChar (n / Nat.pow 16 i % 16)

/-- A character inside a quoted string. -/
def escapeChar (c : Char) : List Char :=
  match c with
  | '"' => ['\\', '"']
  | '\\' => ['\\', '\\']
  | '\n' => ['\\', 'n']
  | '\r' => ['\\', 'r']
  | '\t' => ['\\', 't']
  | c =>
    if c.toNat = 8 then ['\\', 'b']
    else if c.toNat = 12 then ['\\', 'f']
    else if c.toNat < 0x20 then '\\' :: 'u' :: hexDigits 4 c.toNat
    else [c]

/-- A string in quotes. -/
def quote (s : String) : List Char := '"' :: s.toList.flatMap escapeChar ++ ['"']

/-- A value that is no list and no object. -/
def scalarText : Json → List Char
  | .null => "null".toList
  | .bool true => "true".toList
  | .bool false => "false".toList
  | .int i => (toString i).toList
  | .float x => (Decimal.render storedLayout x).toList
  | .str s => quote s
  | _ => []

mutual

/-- A value on one line, in front of `after`. -/
def compactChars : Json → List Char → List Char
  | .arr items, after => '[' :: compactItems items true (']' :: after)
  | .obj fields, after => '{' :: compactFields fields true ('}' :: after)
  | .null, after => scalarText .null ++ after
  | .bool b, after => scalarText (.bool b) ++ after
  | .int i, after => scalarText (.int i) ++ after
  | .float x, after => scalarText (.float x) ++ after
  | .str s, after => scalarText (.str s) ++ after

/-- List items on one line; `first` says whether no comma goes before the next. -/
def compactItems : List Json → Bool → List Char → List Char
  | [], _, after => after
  | v :: rest, first, after =>
    (if first then [] else [',']) ++ compactChars v (compactItems rest false after)

/-- Object members on one line. -/
def compactFields : List (String × Json) → Bool → List Char → List Char
  | [], _, after => after
  | (k, v) :: rest, first, after =>
    (if first then [] else [',']) ++ quote k ++
      ':' :: compactChars v (compactFields rest false after)

end

/-- A value on one line. -/
def compact (j : Json) : String := String.ofList (compactChars j [])

/-- A line break and the blanks of a nesting level. -/
def newline (depth : Nat) : List Char := '\n' :: List.replicate (2 * depth) ' '

mutual

/-- A value over several lines, in front of `after`. -/
def prettyChars : Nat → Json → List Char → List Char
  | _, .arr [], after => '[' :: ']' :: after
  | depth, .arr (v :: rest), after =>
    '[' :: newline (depth + 1) ++ prettyChars (depth + 1) v
      (prettyItems (depth + 1) rest (newline depth ++ ']' :: after))
  | _, .obj [], after => '{' :: '}' :: after
  | depth, .obj ((k, v) :: rest), after =>
    '{' :: newline (depth + 1) ++ quote k ++ ':' :: ' ' :: prettyChars (depth + 1) v
      (prettyFields (depth + 1) rest (newline depth ++ '}' :: after))
  | _, .null, after => scalarText .null ++ after
  | _, .bool b, after => scalarText (.bool b) ++ after
  | _, .int i, after => scalarText (.int i) ++ after
  | _, .float x, after => scalarText (.float x) ++ after
  | _, .str s, after => scalarText (.str s) ++ after

/-- The items after the first, each on its own line. -/
def prettyItems : Nat → List Json → List Char → List Char
  | _, [], after => after
  | depth, v :: rest, after =>
    ',' :: newline depth ++ prettyChars depth v (prettyItems depth rest after)

/-- The members after the first, each on its own line. -/
def prettyFields : Nat → List (String × Json) → List Char → List Char
  | _, [], after => after
  | depth, (k, v) :: rest, after =>
    ',' :: newline depth ++ quote k ++ ':' :: ' ' :: prettyChars depth v
      (prettyFields depth rest after)

end

/-- A value over several lines, two blanks for each level. -/
def pretty (j : Json) : String := String.ofList (prettyChars 0 j [])

end Json
end Cadence
