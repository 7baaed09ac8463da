/-
# Reading records and collecting what is wrong

`Checked α` is a value that was read, or the issues that kept it from being read, at least one. Two
readings that are combined report the issues of both, those of the first before those of the
second, so a record reports all of its fields in their order.

A field of a record is found under any of several names. The issues of its value carry the name it
was found under, and a field that is missing is reported under its first name.

Key definitions: `Checked`, `Checked.within`, `Decode.record`, `Decode.field`, `Decode.fieldOr`,
`Decode.nullable`, `Decode.listOf`, `Decode.choiceOf`.
-/
import Cadence.Decode.Issue
import Cadence.Json.Basic
import Cadence.Text.Half

namespace Cadence

/-- A value, or what is wrong with the document it was read from. -/
inductive Checked (α : Type) where
  | ok (value : α)
  | bad (first : Issue) (rest : List Issue)
  deriving Repr, Inhabited

namespace Checked

variable {α β : Type}

/-- The value under a function. -/
def map (f : α → β) : Checked α → Checked β
  | .ok a => .ok (f a)
  | .bad i is => .bad i is

/-- A function that was read applied to a value that was read, with the issues of both. -/
def apply (f : Checked (α → β)) (x : Checked α) : Checked β :=
  match f, x with
  | .ok f, .ok a => .ok (f a)
  | .ok _, .bad i is => .bad i is
  | .bad i is, .ok _ => .bad i is
  | .bad i is, .bad j js => .bad i (is ++ j :: js)

instance : Applicative Checked where
  pure := .ok
  map := map
  seq f x := apply f (x ())

/-- A further check of a value that was read. -/
def andThen (x : Checked α) (f : α → Checked β) : Checked β :=
  match x with
  | .ok a => f a
  | .bad i is => .bad i is

/-- A reading that fails with one defect at the value itself. -/
def fail (d : Defect) : Checked α := .bad ⟨[], d⟩ []

/-- A value that must be there. -/
def ofOption (d : Defect) : Option α → Checked α
  | some a => .ok a
  | none => fail d

/-- A reading of a value at a place, whose issues say so. -/
def within (p : Place) : Checked α → Checked α
  | .ok a => .ok a
  | .bad i is => .bad ⟨p :: i.path, i.defect⟩ (is.map fun i => ⟨p :: i.path, i.defect⟩)

/-- The value, or all issues. -/
def toExcept : Checked α → Except (List Issue) α
  | .ok a => .ok a
  | .bad i is => .error (i :: is)

end Checked

namespace Decode

open Json (Fields)

variable {α β : Type}

/-- The first of several names under which there is a member, and its value. -/
def entry? (names : List String) (fields : Fields) : Option (String × Json) :=
  names.findSome? fun n => (fields.get? n).map (n, ·)

/-- A name in words joined by capitals, with small letters and underscores instead. -/
def underscored (name : String) : String :=
  String.ofList (name.toList.flatMap fun c => if c.isUpper then ['_', c.toLower] else [c])

/-- The two ways to write a name: words joined by capitals, or by underscores. -/
def spellings (name : String) : List String := [name, underscored name]

/-- A member that must be there. -/
def field (names : List String) (check : Json → Checked α) (fields : Fields) : Checked α :=
  match entry? names fields with
  | some (name, value) => (check value).within (.key name)
  | none => .bad ⟨[.key (names.headD "")], .missing⟩ []

/-- A member that has a value of its own where it is absent. -/
def fieldOr (names : List String) (value : α) (check : Json → Checked α) (fields : Fields) :
    Checked α :=
  match entry? names fields with
  | some (name, value) => (check value).within (.key name)
  | none => .ok value

/-- A value that may be null. -/
def nullable (check : Json → Checked α) : Json → Checked (Option α)
  | .null => .ok none
  | j => (check j).map some

/-- The items of a list from a position on, each read at its position. -/
def itemsFrom (check : Json → Checked α) : Nat → List Json → Checked (List α)
  | _, [] => .ok []
  | i, j :: rest => List.cons <$> (check j).within (.index i) <*> itemsFrom check (i + 1) rest

/-- A list of values. -/
def listOf (check : Json → Checked α) : Json → Checked (List α)
  | .arr items => itemsFrom check 0 items
  | _ => .fail .notList

/-- An object with values of any form. Its keys have no halves of pairs. -/
def dictionary : Json → Checked Fields
  | .obj fields =>
    match fields.find? fun m => Text.Half.isIn m.1 with
    | some (key, _) => .bad ⟨[.key key, .key "[key]"], .brokenText⟩ []
    | none => .ok fields
  | _ => .fail .notDictionary

/-- The members of a record of a given name. -/
def record (name : String) (check : Fields → Checked α) : Json → Checked α
  | .obj fields => check fields
  | _ => .fail (.notRecord name)

/-- One of several texts, each standing for a value. -/
def choiceOf (choices : List (String × α)) (j : Json) : Checked α :=
  match j with
  | .str s => .ofOption (.notChoice (choices.map (·.1))) ((choices.find? (·.1 = s)).map (·.2))
  | _ => .fail (.notChoice (choices.map (·.1)))

end Decode
end Cadence
