/-
# Free values

Some members of documents hold values of any form. Where such a document is written, numbers in a
free value that are not finite become null, and a free value that is nested too deep cannot be
written at all. Nor can a text with half of a pair in it.

The height of a value counts its levels: one for a value that holds no others, and one more for
every list or object around it.

Key definitions: `Json.finiteOnly`, `Json.height`, `Json.isShallow`, `Json.hasHalf`,
`Json.isSendable`.
-/
import Cadence.Json.Basic
import Cadence.Text.Half

namespace Cadence
namespace Json

mutual

/-- The value with null in place of every number that is not finite. -/
def finiteOnly : Json → Json
  | .float x =>
    match x with
    | .finite n m e => .float (.finite n m e)
    | _ => .null
  | .arr items => .arr (finiteItems items)
  | .obj fields => .obj (finiteFields fields)
  | j => j

/-- Items with null in place of every number that is not finite. -/
def finiteItems : List Json → List Json
  | [] => []
  | j :: rest => j.finiteOnly :: finiteItems rest

/-- Members with null in place of every number that is not finite. -/
def finiteFields : List (String × Json) → List (String × Json)
  | [] => []
  | (k, j) :: rest => (k, j.finiteOnly) :: finiteFields rest

end

mutual

/-- The number of levels of a value. -/
def height : Json → Nat
  | .arr items => heightOfItems items + 1
  | .obj fields => heightOfFields fields + 1
  | _ => 1

/-- The greatest number of levels of items. -/
def heightOfItems : List Json → Nat
  | [] => 0
  | j :: rest => max j.height (heightOfItems rest)

/-- The greatest number of levels of the values of members. -/
def heightOfFields : List (String × Json) → Nat
  | [] => 0
  | (_, j) :: rest => max j.height (heightOfFields rest)

end

/-- The most levels that a free value can have where it is written. -/
def greatestHeight : Nat := 255

/-- Whether a free value can be written. -/
def isShallow (j : Json) : Bool := j.height ≤ greatestHeight

/-- Whether all values of free members can be written. -/
def Fields.areShallow (f : Fields) : Bool := f.all fun m => m.2.isShallow

mutual

/-- Whether there is half of a pair in a text of a value. -/
def hasHalf : Json → Bool
  | .str s => Text.Half.isIn s
  | .arr items => itemsHaveHalf items
  | .obj fields => fieldsHaveHalf fields
  | _ => false

/-- Whether there is half of a pair in a text of items. -/
def itemsHaveHalf : List Json → Bool
  | [] => false
  | j :: rest => j.hasHalf || itemsHaveHalf rest

/-- Whether there is half of a pair in a key or a text of members. -/
def fieldsHaveHalf : List (String × Json) → Bool
  | [] => false
  | (k, j) :: rest => Text.Half.isIn k || j.hasHalf || fieldsHaveHalf rest

end

/-- Whether a value can be sent: all its numbers are finite, and its texts are whole. -/
def isSendable (j : Json) : Bool := j.finiteOnly = j && !j.hasHalf

end Json
end Cadence
