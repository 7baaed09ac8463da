/-
# Forms

A `Form` is a list of named values. On the wire its pairs are joined by ampersands and a name and
its value by an equals sign; in both, a blank is a plus sign, letters, digits and four marks stand
for themselves, and everything else is escaped.

The members of an object become a form too. A list then stands for several values of one name, and
a value that is no text is written out.

Key definitions: `Http.Form`, `Http.Form.ofFields`, `Http.Form.escape`, `Http.Form.encode`.
-/
import Cadence.Json.Display
import Cadence.Text.Percent

namespace Cadence
namespace Http

/-- Named values, in order. -/
abbrev Form := List (String × String)

namespace Form

/-- The text of a value in a form: truth values have small letters here, and null has no text. -/
def valueText : Json → String
  | .null => ""
  | .bool b => if b then "true" else "false"
  | j => j.display

/-- The form with the members of an object. -/
def ofFields (fields : Json.Fields) : Form :=
  fields.flatMap fun (name, value) =>
    match value with
    | .arr items => items.map fun item => (name, valueText item)
    | value => [(name, valueText value)]

/-- Whether a character stands for itself in a form. -/
def isPlain (c : Char) : Bool := c.isAlphanum || c = '_' || c = '.' || c = '-' || c = '~'

/-- A name or a value on the wire. -/
def escape (cs : List Char) : List Char :=
  (Text.Percent.escape (fun c => isPlain c || c = ' ') cs).map fun c => if c = ' ' then '+' else c

/-- A form on the wire. -/
def encode (f : Form) : String :=
  "&".intercalate <| f.map fun (name, value) =>
    String.ofList (escape name.toList) ++ "=" ++ String.ofList (escape value.toList)

end Form
end Http
end Cadence
