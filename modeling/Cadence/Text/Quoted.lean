/-
# Quoted text inside reports

A text inside a list or an object of a report stands in quotes: single quotes, or double ones if it
holds a single quote and no double one. The quote, the backslash, line breaks and tabs are escaped,
and a character that is not printable is written by its code point with the fewest of two, four or
eight hexadecimal digits.

Key definitions: `Quoted.quoteOf`, `Quoted.encodeChar`, `Quoted.encode`, `quoted`.
-/
import Cadence.Text.Printable
import Cadence.Json.Printer

namespace Cadence
namespace Text
namespace Quoted

/-- The quote put around a text. -/
def quoteOf (cs : List Char) : Char :=
  if cs.contains (Char.ofNat 39) && !cs.contains '"' then '"' else Char.ofNat 39

/-- A character inside the quotes. -/
def encodeChar (q c : Char) : List Char :=
  if c = q ∨ c = '\\' then ['\\', c]
  else if c = '\n' then ['\\', 'n']
  else if c = '\r' then ['\\', 'r']
  else if c = '\t' then ['\\', 't']
  else if isPrintable c then [c]
  else if c.toNat < 0x100 then '\\' :: 'x' :: Json.hexDigits 2 c.toNat
  else if c.toNat < 0x10000 then '\\' :: 'u' :: Json.hexDigits 4 c.toNat
  else '\\' :: 'U' :: Json.hexDigits 8 c.toNat

/-- Characters in quotes. -/
def encode (cs : List Char) : List Char :=
  let q := quoteOf cs
  q :: cs.flatMap (encodeChar q) ++ [q]

end Quoted

/-- A text in quotes. -/
def quoted (s : String) : String := String.ofList (Quoted.encode s.toList)

end Text
end Cadence
