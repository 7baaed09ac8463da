/-
# Paths

A path is a sequence of names with slashes between them. Single points and nothing at all between
two slashes do not count, two points lead up, and a path that starts with a slash starts at the
root.

Files are kept in one directory, the home directory. Of everything else only the directories above
it are known to be there, and the files that were put into them. A path is followed name by name
from the home directory; what keeps it from leading on is an `Obstacle`.

Key definitions: `Path.parts`, `Folder`, `Tree`, `Tree.enter`, `Tree.locate`.
-/
import Cadence.Text.Split

namespace Cadence

namespace Path

/-- The names in a path that count. -/
def parts (path : String) : List String :=
  (Text.splitOn '/' path).filter fun part => part ≠ "" && part ≠ "."

/-- Whether a path starts at the root. -/
def isRooted (path : String) : Bool := path.toList.head? = some '/'

/-- Whether there is a character in a text that no path may have. -/
def hasNul (path : String) : Bool := path.toList.contains (Char.ofNat 0)

/-- The greatest size of a name, in bytes. -/
def longestName : Nat := 255

/-- The greatest size of a path, in bytes. A whole path has at most 4095; some go to the way to the
home directory. -/
def longestPath : Nat := 4060

end Path

/-- A directory: some levels above the home directory, or the root of everything. -/
inductive Folder where
  | above (levels : Nat)
  | root
  deriving Repr, DecidableEq, Inhabited

namespace Folder

/-- The home directory. -/
def home : Folder := .above 0

/-- The directory above. Above the root there is only the root. -/
def parent : Folder → Folder
  | above levels => above (levels + 1)
  | root => root

end Folder

/-- Why a path does not lead on. -/
inductive Obstacle where
  | missing
  | notFolder
  | longName
  deriving Repr, DecidableEq, Inhabited

/-- What is known to be there: the name of the home directory in the one above it, if that is known,
and the files in a directory. -/
structure Tree where
  homeName : Option String
  hasFile : Folder → String → Bool

namespace Tree

/-- The directory of a name in a directory. -/
def enter (t : Tree) (d : Folder) (part : String) : Except Obstacle Folder :=
  if part = ".." then .ok d.parent
  else if Path.longestName < part.utf8ByteSize then .error .longName
  else if d = .above 1 ∧ t.homeName = some part then .ok .home
  else .error (if t.hasFile d part then .notFolder else .missing)

/-- The directory in which a path's last name stands, and that name. -/
def locate (t : Tree) (path : String) : Except Obstacle (Folder × String) := do
  let parts := Path.parts path
  if Path.longestPath < ("/".intercalate parts).utf8ByteSize then throw .longName
  let folder ← parts.dropLast.foldlM t.enter (if Path.isRooted path then .root else .home)
  match parts.getLast? with
  | none => throw .missing
  | some name =>
    if Path.longestName < name.utf8ByteSize then throw .longName
    return (folder, name)

end Tree
end Cadence
