/-
# Faults

A `Fault` is why an operation gave no answer: a document that could not be read, a delivery that
failed, something that is not there, or a moment that no calendar has. Faults are told apart by
their cause, and whoever shows them to somebody decides on the words.

Key definitions: `Fault`, `Fault.ofZone`, `Fault.ofObstacle`.
-/
import Cadence.Decode.Issue
import Cadence.Path
import Cadence.Time.Zone.Directory
import Cadence.Workflow.Flaw

namespace Cadence

/-- Why an operation gave no answer. -/
inductive Fault where
  /-- A document has these issues. -/
  | invalid (issues : List Issue)
  /-- A workflow definition cannot be run. -/
  | flawed (flaw : Workflow.Flaw)
  /-- A delivery failed, with a message and the type of the failure. -/
  | service (message errorType : String)
  /-- A delivery had nobody to go to. -/
  | recipient (message : String)
  /-- There is no workflow with this id. -/
  | noWorkflow (id : String)
  /-- There is no enrollment with this id. -/
  | noEnrollment (id : String)
  /-- There is no entry with this key. -/
  | noEntry (key : String)
  /-- There is no time zone with this name. -/
  | noZone (name : String)
  /-- A name of a time zone names an area. -/
  | zoneArea (name : String)
  /-- A value does not have the form it needs. -/
  | malformed
  /-- A moment, a duration or a number is beyond what can be represented. -/
  | overflow
  /-- Values of different natures were compared or combined. -/
  | mismatched
  /-- A value does not have a part that was asked for. -/
  | noPart
  /-- A row would break a constraint of the store. -/
  | constraint
  /-- A file is there already. -/
  | fileExists
  /-- A file is not there. -/
  | noFile
  /-- What should be a file is a directory. -/
  | isFolder
  /-- What should be a directory is a file. -/
  | notFolder
  /-- The name of a file is too long. -/
  | longName
  /-- A pattern of file names starts at the root. -/
  | rootedPattern
  /-- A path or a pattern of paths has too many names in it. -/
  | manyNames
  /-- A document holds values that are nested too deep to show it. -/
  | tooDeep
  /-- A document holds values that are nested too deep to put it into a file. -/
  | unwritable
  /-- An error of another kind, by its name, with its text. -/
  | other (name text : String)
  deriving Repr, DecidableEq, Inhabited

namespace Fault

/-- The fault of a name without a time zone. -/
def ofZone : Time.ZoneFault → Fault
  | .unknown name => .noZone name
  | .malformed _ => .malformed
  | .notZone _ => .malformed
  | .throughMarker _ => .mismatched
  | .manyFolders _ => .manyNames
  | .tooLong _ => .longName
  | .area name => .zoneArea name

/-- The fault of a path that does not lead on. -/
def ofObstacle : Obstacle → Fault
  | .missing => .noFile
  | .notFolder => .notFolder
  | .longName => .longName

/-- A document that was written, or the fault that it is nested too deep. -/
def ofWritten : Option Json → Except Fault Json
  | some j => .ok j
  | none => .error .tooDeep

end Fault
end Cadence
