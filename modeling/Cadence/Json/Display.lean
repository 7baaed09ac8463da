/-
# Values inside reports

`Json.inline` writes a value as it stands inside a list or an object of a report: words for null
and the truth values, texts in quotes, floats with the fewest digits that read back. `Json.display`
is the same except that a text on its own stands without quotes.

When a value is not of the nature that is needed, messages name its nature by `Json.nature`.

Key definitions: `Json.inline`, `Json.display`, `Json.nature`.
-/
import Cadence.Text.Quoted

namespace Cadence
namespace Json

mutual

/-- A value inside a list or an object of a report. -/
def inline : Json → String
  | .null => "None"
  | .bool true => "True"
  | .bool false => "False"
  | .int i => toString i
  | .float x => Decimal.render Decimal.plain x
  | .str s => Text.quoted s
  | .arr items => "[" ++ ", ".intercalate (inlineItems items) ++ "]"
  | .obj fields => "\x7b" ++ ", ".intercalate (inlineFields fields) ++ "\x7d"

/-- The texts of list items. -/
def inlineItems : List Json → List String
  | [] => []
  | v :: rest => inline v :: inlineItems rest

/-- The texts of object members. -/
def inlineFields : List (String × Json) → List String
  | [] => []
  | (k, v) :: rest => (Text.quoted k ++ ": " ++ inline v) :: inlineFields rest

end

/-- A value on its own in a report. -/
def display : Json → String
  | .str s => s
  | j => inline j

/-- The name of a value's nature. -/
def nature : Json → String
  | .null => "NoneType"
  | .bool _ => "bool"
  | .int _ => "int"
  | .float _ => "float"
  | .str _ => "str"
  | .arr _ => "list"
  | .obj _ => "dict"

end Json
end Cadence
