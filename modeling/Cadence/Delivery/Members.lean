/-
# The members of a reply

A collaborator replies with an object, or with a sequence of pairs that stands for one. The key of a
pair may be any value that holds no others. Keys that are the same number are one key, whatever
their nature; a key that is given again keeps its place and its first form, and gets the new value.

A step records the members of a reply, and can do so only if all keys are texts. Where some are not,
the complaint names each of them, in their order.

Key definitions: `Members`, `Members.set`, `Reply.members`, `Members.fields`.
-/
import Cadence.Decode.Issue
import Cadence.Delivery.Basic
import Cadence.Json.Display

namespace Cadence

/-- Values by keys that are values themselves, in the order of their keys. -/
abbrev Members := List (Json × Json)

namespace Members

/-- What a key is known by: a number without a fraction by its integer, and any other value by
itself. -/
def identity : Json → Json
  | .bool b => .int (if b then 1 else 0)
  | .float x =>
    match x.toInt? with
    | some i => .int i
    | none => .float x
  | j => j

/-- The members with a value for a key. -/
def set : Members → Json → Json → Members
  | [], key, value => [(key, value)]
  | (k, v) :: rest, key, value =>
    if identity k = identity key then (k, value) :: rest else (k, v) :: set rest key value

/-- The members of an object. -/
def ofFields (f : Json.Fields) : Members := f.map fun m => (.str m.1, m.2)

/-- The items of a value that stands for a sequence, if it is one. -/
def sequence? : Json → Option (List Json)
  | .arr items => some items
  | .obj fields => some (fields.map fun m => .str m.1)
  | .str s => some (s.toList.map fun c => .str (String.singleton c))
  | _ => none

/-- Members with those of a sequence of pairs, whose items are numbered from `i` on. -/
def ofPairs (i : Nat) (acc : Members) : List Json → Except Failure Members
  | [] => .ok acc
  | item :: rest =>
    match sequence? item with
    | none => .error (.other "TypeError"
        ("cannot convert dictionary update sequence element #" ++ toString i ++ " to a sequence"))
    | some [.arr _, _] => .error (.other "TypeError" "unhashable type: 'list'")
    | some [.obj _, _] => .error (.other "TypeError" "unhashable type: 'dict'")
    | some [key, value] => ofPairs (i + 1) (set acc key value) rest
    | some items => .error (.other "ValueError"
        ("dictionary update sequence element #" ++ toString i ++ " has length " ++
          toString items.length ++ "; 2 is required"))

/-- The members that a returned value stands for: those of an object, the pairs of a sequence, and
none for a value that is empty. -/
def ofValue (value : Json) : Except Failure Members :=
  if !value.isTruthy then .ok []
  else match value with
    | .obj fields => .ok (ofFields fields)
    | value =>
      match sequence? value with
      | some items => ofPairs 0 [] items
      | none => .error (.other "TypeError" ("'" ++ value.nature ++ "' object is not iterable"))

/-- A text whose middle is left out if it has more than fifty characters. -/
def abridged (s : String) : String :=
  if s.length ≤ 50 then s
  else String.ofList (s.toList.take 25) ++ "..." ++ String.ofList (s.toList.drop (s.length - 24))

/-- A key as a part of the way to a value: a truth value as a number, and anything else as reports
write it, between back quotes if there is a point in it. -/
def placeText (key : Json) : String :=
  let text := match key with
    | .bool b => if b then "1" else "0"
    | j => j.inline
  if text.toList.contains '.' then "`" ++ text ++ "`" else text

/-- Where clients can read about a kind of defect. -/
def helpAddress (kind : String) : String := "https" ++ "://errors.pydantic.dev/2.14/v/" ++ kind

/-- The lines about a key that is no text. -/
def complaintAbout (key : Json) : String :=
  let defect := Defect.notText
  "\noutput." ++ placeText key ++ ".[key]\n  " ++ defect.message ++ " [type=" ++ defect.kind ++
    ", input_value=" ++ abridged key.inline ++ ", input_type=" ++ key.nature ++
    "]\n    For further information visit " ++ helpAddress defect.kind

/-- The keys that are no texts. -/
def strangeKeys (m : Members) : List Json := (m.map (·.1)).filter fun key => key.asText?.isNone

/-- The complaint about keys that are no texts. -/
def complaint (keys : List Json) : String :=
  toString keys.length ++ " validation error" ++ (if keys.length = 1 then "" else "s") ++
    " for ExecutionStep" ++ String.join (keys.map complaintAbout)

/-- The members of an object, if all keys are texts. -/
def fields (m : Members) : Except Failure Json.Fields :=
  match m.strangeKeys with
  | [] => .ok (m.filterMap fun (key, value) => key.asText?.map (·, value))
  | keys => .error (.other "ValidationError" (complaint keys))

end Members

/-- The members that a reply brings, or why there are none. -/
def Reply.members : Reply → Except Failure Members
  | returned value => Members.ofValue value
  | failed failure => .error failure
  | hung => .error .timedOut

end Cadence
