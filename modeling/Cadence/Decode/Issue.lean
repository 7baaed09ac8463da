/-
# What is wrong with a document

A document that is read into a record may be wrong in several places. An `Issue` is one of them: the
path of keys and list positions that leads to the value, and the `Defect` of the value there. The
kind and the message of a defect are what clients are told.

Key definitions: `Step`, `Defect`, `Issue`, `Defect.kind`, `Defect.message`.
-/
import Cadence.Number.Decimal
import Cadence.Text.Quoted

namespace Cadence

/-- One step of the way to a value: under a key or at a list position. -/
inductive Place where
  | key (name : String)
  | index (i : Nat)
  deriving Repr, DecidableEq, Inhabited

/-- A place as text. -/
def Place.text : Place → String
  | .key name => name
  | .index i => toString i

/-- What is wrong with a value. -/
inductive Defect where
  | missing
  | unknownField
  | notText
  | brokenText
  | notPath
  | notTruth
  | unreadableTruth
  | notInteger
  | unreadableInteger
  | hugeInteger
  | fractional
  | endless
  | notNumber
  | unreadableNumber
  | notDictionary
  | notList
  | notRecord (name : String)
  | notChoice (choices : List String)
  | notTagged
  | untagged (field : String)
  | unknownTag (tag field : String) (tags : List String)
  | below (least : Int)
  | above (greatest : Int)
  | notMoment
  | unreadableMoment (reason : String)
  | momentOutOfRange (reason : String)
  | badJson
  deriving Repr, DecidableEq, Inhabited

/-- One thing that is wrong with a document. -/
structure Issue where
  path : List Place
  defect : Defect
  deriving Repr, DecidableEq, Inhabited

/-- Texts in quotes, the last two joined by "or" and the others by commas. -/
def orList (texts : List String) : String :=
  match (texts.map fun t => "'" ++ t ++ "'").reverse with
  | [] => ""
  | [only] => only
  | last :: others => ", ".intercalate others.reverse ++ " or " ++ last

namespace Defect

/-- The name of a defect's kind. -/
def kind : Defect → String
  | missing => "missing"
  | unknownField => "extra_forbidden"
  | notText => "string_type"
  | brokenText => "string_unicode"
  | notPath => "path_type"
  | notTruth => "bool_type"
  | unreadableTruth => "bool_parsing"
  | notInteger => "int_type"
  | unreadableInteger => "int_parsing"
  | hugeInteger => "int_parsing_size"
  | fractional => "int_from_float"
  | endless => "finite_number"
  | notNumber => "float_type"
  | unreadableNumber => "float_parsing"
  | notDictionary => "dict_type"
  | notList => "list_type"
  | notRecord _ => "model_type"
  | notChoice _ => "literal_error"
  | notTagged => "model_attributes_type"
  | untagged _ => "union_tag_not_found"
  | unknownTag .. => "union_tag_invalid"
  | below _ => "greater_than_equal"
  | above _ => "less_than_equal"
  | notMoment => "datetime_type"
  | unreadableMoment _ => "datetime_from_date_parsing"
  | momentOutOfRange _ => "datetime_parsing"
  | badJson => "json_invalid"

/-- A defect in words. -/
def message : Defect → String
  | missing => "Field required"
  | unknownField => "Extra inputs are not permitted"
  | notText => "Input should be a valid string"
  | brokenText => "Input should be a valid string, unable to parse raw data as a unicode string"
  | notPath => "Input is not a valid path for <class 'pathlib.Path'>"
  | notTruth => "Input should be a valid boolean"
  | unreadableTruth => "Input should be a valid boolean, unable to interpret input"
  | notInteger => "Input should be a valid integer"
  | unreadableInteger => "Input should be a valid integer, unable to parse string as an integer"
  | hugeInteger => "Unable to parse input string as an integer, exceeded maximum size"
  | fractional => "Input should be a valid integer, got a number with a fractional part"
  | endless => "Input should be a finite number"
  | notNumber => "Input should be a valid number"
  | unreadableNumber => "Input should be a valid number, unable to parse string as a number"
  | notDictionary => "Input should be a valid dictionary"
  | notList => "Input should be a valid list"
  | notRecord name => "Input should be a valid dictionary or instance of " ++ name
  | notChoice choices => "Input should be " ++ orList choices
  | notTagged => "Input should be a valid dictionary or object to extract fields from"
  | untagged field => "Unable to extract tag using discriminator '" ++ field ++ "'"
  | unknownTag tag field tags =>
    "Input tag '" ++ tag ++ "' found using '" ++ field ++
      "' does not match any of the expected tags: " ++
      ", ".intercalate (tags.map fun t => "'" ++ t ++ "'")
  | below least => "Input should be greater than or equal to " ++ toString least
  | above greatest => "Input should be less than or equal to " ++ toString greatest
  | notMoment => "Input should be a valid datetime"
  | unreadableMoment reason => "Input should be a valid datetime or date, " ++ reason
  | momentOutOfRange reason => "Input should be a valid datetime, " ++ reason
  | badJson => "JSON decode error"

end Defect
end Cadence
