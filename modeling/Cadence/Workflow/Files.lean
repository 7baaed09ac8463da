/-
# The store of workflows

Every version of a workflow is kept in a file of its own, named by the id and the version, and is
never written again. The file holds the record as a document; numbers that are not finite become
null in it. An id with slashes makes a path, which may lead out of the store and back into it.

The versions of a workflow are found by a pattern of paths into which the id goes as it is, so an id
may have stars and question marks that match other ids. Of the files that match, those count whose
names go on with digits after as many characters as the id and its mark have; the latest is the one
with the greatest number after the last `-v` of its name. Where several have it, the one made first
counts.

Key definitions: `Files`, `Files.publish`, `Files.versions`, `Files.load`, `Files.save`,
`Files.latestRecords`, `Files.delete`.
-/
import Cadence.Fault
import Cadence.Json.Free
import Cadence.Json.Printer
import Cadence.Path
import Cadence.Text.Glob
import Cadence.Text.Ranges
import Cadence.Text.Split
import Cadence.Workflow.Record

namespace Cadence

namespace Workflow

open Time

/-- A file: where it lies, its name and the document in it. -/
structure File where
  folder : Folder
  name : String
  document : Json
  deriving Repr, DecidableEq, Inhabited

/-- The files that were made, those made last first. The store's own are in its home directory. -/
abbrev Files := List File

namespace File

/-- The name of the file of a version. -/
def nameOf (id : String) (version : Int) : String := id ++ "-v" ++ toString version ++ ".json"

/-- The name without its ending. -/
def stem (f : File) : List Char := f.name.toList.take (f.name.length - 5)

/-- The text of a file. -/
def text (f : File) : String := f.document.pretty

/-- The record in a file. -/
def read (now : Moment) (f : File) : Except Fault Record :=
  match Record.decode now f.document with
  | .ok r => .ok r
  | .bad i is => .error (.invalid (i :: is))

/-- What follows the last `-v` in a text. -/
def afterLastMark : List Char → List Char
  | [] => []
  | c :: cs =>
    let hasMark := fun (ds : List Char) => (ds.zip ds.tail).any fun (a, b) => a = '-' && b = 'v'
    if hasMark cs then afterLastMark cs
    else if c = '-' && cs.head? = some 'v' then cs.tail
    else cs

/-- The number in a text of digits that may have a minus sign. -/
def numberIn (cs : List Char) : Except Fault Int :=
  let digits (ds : List Char) : Option Nat :=
    if ds.isEmpty then none
    else (ds.mapM Text.decimalDigit?).map fun ns => ns.foldl (fun n d => n * 10 + d) 0
  let value := match cs with
    | '-' :: ds => (digits ds).map fun n => -(n : Int)
    | ds => (digits ds).map Int.ofNat
  match value with
  | some n => .ok n
  | none => .error .malformed

/-- The number that orders the versions of a workflow. -/
def number (f : File) : Except Fault Int := numberIn (afterLastMark f.stem)

end File

namespace Files

/-- The file of a name in a directory. -/
def fileAt? (files : Files) (d : Folder) (name : String) : Option File :=
  files.find? fun f => f.folder = d && f.name = name

/-- What is known of the directories around the store. -/
def tree (files : Files) : Tree where
  homeName := some "workflows"
  hasFile d name := (files.fileAt? d name).isSome

/-- Whether a name is a pattern. -/
def isPattern (part : String) : Bool := part.toList.any fun c => c = '*' || c = '?' || c = '['

/-- As many names may be in a pattern of paths. -/
def longestPattern : Nat := 245

/-- The names in the pattern of the paths of a workflow's files. A double star is a name of its
own. -/
def patternOf (id : String) : Except Fault (List String) :=
  let path := id ++ "-v*.json"
  let parts := Path.parts path
  let isDouble (p : String) := p ≠ "**" && Text.hasPair '*' p
  if Path.isRooted path then .error .rootedPattern
  else if (parts.take longestPattern).any isDouble then .error .malformed
  else if longestPattern < parts.length then .error .manyNames
  else .ok parts

/-- The directories known to be in a directory, with their names. -/
def subfolders (d : Folder) : List (String × Folder) :=
  if d = .above 1 then [("workflows", .home)] else []

/-- The directories that one name of a pattern leads to. A double star leads to a directory itself
and to all below it, and too long a name is an error. -/
def selectFolders (files : Files) (part : String) (d : Folder) : Except Fault (List Folder) :=
  if part = "**" then .ok (d :: (subfolders d).map (·.2))
  else if isPattern part then
    .ok (((subfolders d).filter fun sub => Glob.accepts part sub.1).map (·.2))
  else if Path.hasNul part then .ok []
  else match files.tree.enter d part with
    | .ok sub => .ok [sub]
    | .error .longName => .error .longName
    | .error _ => .ok []

/-- The files that a pattern selects, from some directories on. -/
def select (files : Files) : List String → List Folder → Except Fault (List File)
  | [], _ => .ok []
  | [last], folders =>
    .ok (files.filter fun f => folders.contains f.folder && Glob.accepts last f.name)
  | part :: rest, folders => do
    select files rest (← folders.mapM (selectFolders files part)).flatten

/-- The files that count as versions of a workflow. -/
def versions (files : Files) (id : String) : Except Fault (List File) := do
  let selected ← files.select (← patternOf id) [.home]
  return selected.filter fun f =>
    let rest := f.stem.drop (id.length + 2)
    !rest.isEmpty && rest.all fun c => (Text.decimalDigit? c).isSome

/-- The later of two numbered files: the second unless its number is less. -/
def later (best : Option (Int × File)) (f : Int × File) : Option (Int × File) :=
  match best with
  | some (n, g) => if f.1 < n then some (n, g) else some f
  | none => some f

/-- The last of the files with the greatest number, which is the one made first. -/
def greatest (numbered : List (Int × File)) : Option File :=
  (numbered.foldl later none).map (·.2)

/-- The latest version of a workflow. -/
def latest (files : Files) (id : String) : Except Fault (Option File) := do
  let numbered ← (← versions files id).mapM fun f => return (← f.number, f)
  return greatest numbered

/-- What is left for a name next to that of the file that is written first. -/
def longestPublished : Nat := 241

/-- The files with a new one for a record, and the new name. A file that is there already stays as
it is. A file is written in the store and then brought to its place, so its name is looked at first
and the way to its place last. -/
def publish (files : Files) (r : Record) : Except Fault (String × Files) := do
  let path := File.nameOf r.id r.version
  let last := (Path.parts path).getLast?.getD ""
  if Path.hasNul last then throw .malformed
  if longestPublished < last.utf8ByteSize then throw .longName
  if !r.definition.isShallow || r.toJson.hasHalf then throw .unwritable
  if Path.hasNul path then throw .malformed
  let (folder, name) ← (files.tree.locate path).mapError Fault.ofObstacle
  if folder = .root then throw .noFile
  if (files.fileAt? folder name).isSome then throw .fileExists
  return (name, ⟨folder, name, r.toJson.finiteOnly⟩ :: files)

/-- The latest record of a workflow. -/
def load (now : Moment) (files : Files) (id : String) : Except Fault (Option Record) := do
  match ← latest files id with
  | none => return none
  | some f => return some (← f.read now)

/-- Saves a record as a new version: the record as it is stored, and the files. A workflow that is
there already keeps the time at which it was made. -/
def save (now : Moment) (files : Files) (r : Record) : Except Fault (Record × Files) := do
  let r ← match ← load now files r.id with
    | none => pure r
    | some current =>
      pure { r with
        version := current.version + 1
        createdAt := current.createdAt
        updatedAt := now }
  let (_, files) ← publish files r
  return (r, files)

/-- The records with a further one, unless one with its id and a version not below its own is
there. -/
def addLatest : List Record → Record → List Record
  | [], r => [r]
  | old :: rest, r =>
    if old.id = r.id then (if old.version < r.version then r else old) :: rest
    else old :: addLatest rest r

/-- Whether all moments can be compared with each other. -/
def comparable (ms : List Moment) : Bool :=
  ms.all (·.offset.isSome) || ms.all (·.offset.isNone)

/-- The latest record of every workflow, those changed last first. -/
def latestRecords (now : Moment) (files : Files) : Except Fault (List Record) := do
  let records ← (← files.select ["*-v*.json"] [.home]).mapM (File.read now)
  let latest := records.foldl addLatest []
  if !comparable (latest.map (·.updatedAt)) then throw .mismatched
  return latest.mergeSort fun a b => (b.updatedAt.le? a.updatedAt).getD true

/-- The files without the versions of a workflow, and whether there were any. -/
def delete (files : Files) (id : String) : Except Fault (Bool × Files) := do
  let found ← versions files id
  return (!found.isEmpty, files.filter fun f =>
    !found.any fun g => g.folder = f.folder && g.name = f.name)

/-- The names of all files of the store, in order. -/
def names (files : Files) : List String :=
  ((files.filter fun f => f.folder = .home && f.name.endsWith ".json").map (·.name)).mergeSort
    fun a b => a ≤ b

/-- The text of the file at a path. -/
def textOf (files : Files) (path : String) : Except Fault String := do
  if Path.hasNul path then throw .malformed
  if (Path.parts path).isEmpty then throw .isFolder
  let (folder, name) ← (files.tree.locate path).mapError Fault.ofObstacle
  match files.fileAt? folder name with
  | some f => return f.text
  | none =>
    let _ ← (files.tree.enter folder name).mapError Fault.ofObstacle
    throw .isFolder

end Files
end Workflow
end Cadence
