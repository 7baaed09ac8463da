/-
# What a request is aimed at

The target of a request is a path of parts between slashes, and after a question mark named
values. It may be written as a whole address too; the host does not matter then. Both may hold
percent escapes, in the path even twice over, and in the values a plus sign stands for a blank.
Slashes at the end of the path do not count, and of several values with one name the last one
counts.

Key definitions: `Api.unescape`, `Api.Target`, `Api.Target.read`, `Api.Target.value?`.
-/
import Cadence.Fault
import Cadence.Http.Address
import Cadence.Json.Parser
import Cadence.Text.Lenient
import Cadence.Text.Split

namespace Cadence
namespace Api

open Http (Address)

/-- The bytes of a text with percent escapes. A percent sign that starts no escape stands for
itself. -/
def bytesOf : List Char → List Nat
  | [] => []
  | '%' :: a :: b :: rest =>
    match Json.hexDigit? a, Json.hexDigit? b with
    | some high, some low => (16 * high + low) :: bytesOf rest
    | _, _ => '%'.toNat :: bytesOf (a :: b :: rest)
  | c :: rest => (String.utf8EncodeChar c).map UInt8.toNat ++ bytesOf rest

/-- The text that a text with percent escapes stands for. -/
def unescape (s : String) : String := String.ofList (Text.Lenient.decode (bytesOf s.toList))

/-- What a request is aimed at. -/
structure Target where
  path : List String
  values : List (String × String)
  deriving Repr, DecidableEq, Inhabited

namespace Target

/-- The address of the server. -/
def home : Address := ⟨"http", "", "testserver", none, "/", none, none⟩

/-- A name and its value; without an equals sign the value is empty. -/
def readValue (s : String) : String × String :=
  let part (cs : List Char) : String :=
    unescape (String.ofList (cs.map fun c => if c = '+' then ' ' else c))
  let cs := s.toList
  (part (cs.takeWhile (· ≠ '=')), part ((cs.dropWhile (· ≠ '=')).drop 1))

/-- The target at an address. -/
def ofAddress (a : Address) : Target :=
  let path := unescape (unescape a.path)
  let bare := String.ofList (path.toList.reverse.dropWhile (· = '/')).reverse
  ⟨(Text.splitOn '/' bare).drop 1, ((Text.splitOn '&' (a.query.getD "")).filter (· ≠ "")).map readValue⟩

/-- Reads a target. -/
def read (s : String) : Except Fault Target := do
  let a ← (Address.read s).mapError fun flaw => Fault.other "InvalidURL" flaw.message
  let a := a.resolvedAt home
  if a.scheme ≠ "http" ∧ a.scheme ≠ "https" then throw (.noEntry a.scheme)
  return ofAddress a

/-- The value with a name. -/
def value? (t : Target) (name : String) : Option String := t.values.reverse.lookup name

end Target
end Api
end Cadence
