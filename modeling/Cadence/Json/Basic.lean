/-
# JSON values with ordered members and exact numbers

A `Json` value keeps the members of an object in the order in which they stand, with distinct
keys, and tells an integer of any size from a binary64 number. Keys are looked up by `get?` and
set by `insert`, which replaces a value in place or adds the member at the end.

`Json.isTruthy` is the test that decides whether a step counts as paused or skipped and whether a
field counts as given: the null value, false, zeros and everything empty fail it.

Key definitions: `Json`, `Json.Fields`, `Fields.get?`, `Fields.insert`, `Json.isTruthy`.
-/
import Cadence.Number.Binary64

namespace Cadence

/-- A JSON value. Objects keep the order of their members. -/
inductive Json where
  | null
  | bool (b : Bool)
  | int (i : Int)
  | float (x : Binary64)
  | str (s : String)
  | arr (items : List Json)
  | obj (fields : List (String × Json))
  deriving Repr, Inhabited

namespace Json

/-- The members of an object, in order. -/
abbrev Fields := List (String × Json)

mutual

/-- Whether two values are the same. -/
def same : Json → Json → Bool
  | .null, .null => true
  | .bool a, .bool b => a == b
  | .int a, .int b => a == b
  | .float a, .float b => a == b
  | .str a, .str b => a == b
  | .arr a, .arr b => sameItems a b
  | .obj a, .obj b => sameFields a b
  | _, _ => false

/-- Whether two item lists are the same. -/
def sameItems : List Json → List Json → Bool
  | [], [] => true
  | a :: as, b :: bs => same a b && sameItems as bs
  | _, _ => false

/-- Whether two member lists are the same, order included. -/
def sameFields : List (String × Json) → List (String × Json) → Bool
  | [], [] => true
  | (k, a) :: as, (l, b) :: bs => k == l && same a b && sameFields as bs
  | _, _ => false

end

mutual

theorem eq_of_same : ∀ {a b : Json}, same a b = true → a = b
  | .null, .null, _ => rfl
  | .bool _, .bool _, h => by simp_all [same]
  | .int _, .int _, h => by simp_all [same]
  | .float _, .float _, h => by simp_all [same]
  | .str _, .str _, h => by simp_all [same]
  | .arr _, .arr _, h => by
    rw [same] at h
    rw [eq_of_sameItems h]
  | .obj _, .obj _, h => by
    rw [same] at h
    rw [eq_of_sameFields h]
  | .null, .bool _, h | .null, .int _, h | .null, .float _, h | .null, .str _, h
  | .null, .arr _, h | .null, .obj _, h | .bool _, .null, h | .bool _, .int _, h
  | .bool _, .float _, h | .bool _, .str _, h | .bool _, .arr _, h | .bool _, .obj _, h
  | .int _, .null, h | .int _, .bool _, h | .int _, .float _, h | .int _, .str _, h
  | .int _, .arr _, h | .int _, .obj _, h | .float _, .null, h | .float _, .bool _, h
  | .float _, .int _, h | .float _, .str _, h | .float _, .arr _, h | .float _, .obj _, h
  | .str _, .null, h | .str _, .bool _, h | .str _, .int _, h | .str _, .float _, h
  | .str _, .arr _, h | .str _, .obj _, h | .arr _, .null, h | .arr _, .bool _, h
  | .arr _, .int _, h | .arr _, .float _, h | .arr _, .str _, h | .arr _, .obj _, h
  | .obj _, .null, h | .obj _, .bool _, h | .obj _, .int _, h | .obj _, .float _, h
  | .obj _, .str _, h | .obj _, .arr _, h => by simp [same] at h

theorem eq_of_sameItems : ∀ {a b : List Json}, sameItems a b = true → a = b
  | [], [], _ => rfl
  | a :: as, b :: bs, h => by
    rw [sameItems, Bool.and_eq_true] at h
    rw [eq_of_same h.1, eq_of_sameItems h.2]
  | [], _ :: _, h | _ :: _, [], h => by simp [sameItems] at h

theorem eq_of_sameFields : ∀ {a b : List (String × Json)}, sameFields a b = true → a = b
  | [], [], _ => rfl
  | (k, a) :: as, (l, b) :: bs, h => by
    rw [sameFields, Bool.and_eq_true, Bool.and_eq_true] at h
    rw [eq_of_same h.1.2, eq_of_sameFields h.2, beq_iff_eq.1 h.1.1]
  | [], _ :: _, h | _ :: _, [], h => by simp [sameFields] at h

end

mutual

theorem same_self : ∀ a : Json, same a a = true
  | .null => by simp [same]
  | .bool _ => by simp [same]
  | .int _ => by simp [same]
  | .float _ => by simp [same]
  | .str _ => by simp [same]
  | .arr a => by rw [same, sameItems_self a]
  | .obj a => by rw [same, sameFields_self a]

theorem sameItems_self : ∀ a : List Json, sameItems a a = true
  | [] => by simp [sameItems]
  | a :: as => by simp [sameItems, same_self a, sameItems_self as]

theorem sameFields_self : ∀ a : List (String × Json), sameFields a a = true
  | [] => by simp [sameFields]
  | (_, a) :: as => by simp [sameFields, same_self a, sameFields_self as]

end

instance : DecidableEq Json := fun a b =>
  if h : same a b = true then isTrue (eq_of_same h)
  else isFalse fun e => h (e ▸ same_self a)

/-- The value of a key, if the object has it. -/
def Fields.get? (fields : Fields) (key : String) : Option Json :=
  (fields.find? (·.1 = key)).map (·.2)

/-- Whether the object has a key. -/
def Fields.has (fields : Fields) (key : String) : Bool := fields.any (·.1 = key)

/-- The members with `key` set to `value`: in place if the key is there, else at the end. -/
def Fields.insert : Fields → String → Json → Fields
  | [], key, value => [(key, value)]
  | (k, v) :: rest, key, value =>
    if k = key then (k, value) :: rest else (k, v) :: Fields.insert rest key value

/-- The members of `fields`, then those of `more`, each set in turn. -/
def Fields.merge (fields more : Fields) : Fields :=
  more.foldl (fun acc m => acc.insert m.1 m.2) fields

/-- The value of a key of an object; null where there is none. -/
def Fields.getD (fields : Fields) (key : String) : Json := (fields.get? key).getD .null

/-- Whether a value counts as given: not null, not false, not a zero and not empty. -/
def isTruthy : Json → Bool
  | .null => false
  | .bool b => b
  | .int i => i != 0
  | .float x => x.isNonzero
  | .str s => s != ""
  | .arr items => !items.isEmpty
  | .obj fields => !fields.isEmpty

/-- The value unless it fails `isTruthy`. -/
def truthy? (j : Json) : Option Json := if j.isTruthy then some j else none

/-- The text of a string value. -/
def asText? : Json → Option String
  | .str s => some s
  | _ => none

/-- The value of an optional text: null where it is absent. -/
def ofText? : Option String → Json
  | some s => .str s
  | none => .null

/-- A list of strings as a value. -/
def ofTexts (xs : List String) : Json := .arr (xs.map .str)

/-- An object without the members that are null. -/
def dropNulls : Fields → Fields := List.filter fun m => m.2 ≠ .null

end Json
end Cadence
