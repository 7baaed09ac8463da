/-
# Looking up time zones

Zones are looked up by the name of an area and a place with a slash between them; the areas of a
place in an area of an area may also be joined by a dot. A name that names nothing is unknown; one
that is not a plain path (it is empty, starts or ends with a slash, or has a part that is a dot or
two) is malformed; one that names an area names many zones and no single one; and beside the zones
stand a few files that are none.

Key definitions: `ZoneFault`, `Zones.find?`, `Zones.lookup`.
-/
import Cadence.Text.Split
import Cadence.Time.Zone.Alias
import Cadence.Time.Zone.Area.Africa
import Cadence.Time.Zone.Area.America
import Cadence.Time.Zone.Area.Asia
import Cadence.Time.Zone.Area.Etc
import Cadence.Time.Zone.Area.Europe
import Cadence.Time.Zone.Area.Oceans
import Cadence.Time.Zone.Area.South

namespace Cadence
namespace Time

/-- Why a name gives no zone. -/
inductive ZoneFault where
  | unknown (name : String)
  | malformed (name : String)
  | area (name : String)
  /-- The name is that of a file without a zone. -/
  | notZone (name : String)
  /-- The name passes through the file that marks a folder. -/
  | throughMarker (name : String)
  /-- The name passes through too many folders. -/
  | manyFolders (name : String)
  /-- The last part of the name is longer than the name of a file can be. -/
  | tooLong (name : String)
  deriving Repr, DecidableEq, Inhabited

namespace Zones

/-- All listed zones. -/
def records : List Record :=
  africa ++ america ++ antarctica ++ asia ++ atlantic ++ australia ++ etc ++ europe ++ indian ++
    pacific

/-- The name under which a zone is listed. -/
def listedName (name : String) : String :=
  match aliases.find? fun (_, others) => others.contains name with
  | some (target, _) => target
  | none => name

/-- The zone of a name. -/
def find? (name : String) : Option Zone :=
  let target := listedName name
  (records.find? fun r => r.name == target).map Record.decode

/-- Whether a name is a plain path: parts between slashes that are neither empty nor dots. -/
def isPlainPath (name : String) : Bool :=
  (Text.splitOn '/' name).all fun part => !(["", ".", ".."].contains part)

/-- Whether a name is the start of the path of some zone. -/
def isArea (name : String) : Bool :=
  let start := name ++ "/"
  records.any (fun r => start.isPrefixOf r.name) ||
    aliases.any fun (_, others) => others.any start.isPrefixOf

/-- The files beside the areas that hold no zone. -/
def tables : List String :=
  ["iso3166.tab", "leapseconds", "tzdata.zi", "zone.tab", "zone1970.tab", "zonenow.tab"]

/-- The name of the file that marks a folder of zones, without its ending. -/
def markerStem : String := "__init__"

/-- The file that marks a folder of zones. -/
def marker : String := markerStem ++ ".py"

/-- As many folders may be in a name. -/
def mostFolders : Nat := 242

/-- Whether parts lead to a folder of zones. -/
def isFolder (folder : List String) : Bool :=
  folder.isEmpty || isArea ("/".intercalate folder)

/-- The most bytes that the name of a file can have. -/
def longestName : Nat := 255

/-- The zone of a file in a folder that is there, or why there is none. -/
def lookupIn (name : String) (folder : List String) (file : String) : Except ZoneFault Zone :=
  let path := "/".intercalate (folder ++ [file])
  if file.toList.contains (Char.ofNat 0) then .error (.malformed name)
  else if longestName < file.utf8ByteSize then .error (.tooLong name)
  else match find? path with
    | some z => .ok z
    | none =>
      if isArea path then .error (.area name)
      else if file = marker || (folder.isEmpty && tables.contains file) then .error (.notZone name)
      else .error (.unknown name)

/-- The zone of a name, or why there is none. -/
def lookup (name : String) : Except ZoneFault Zone :=
  if !isPlainPath name then .error (.malformed name)
  else
    let parts := Text.splitOn '/' name
    let folder := parts.dropLast.flatMap fun part => Text.splitOn '.' part
    if mostFolders < folder.length then .error (.manyFolders name)
    else if isFolder folder then lookupIn name folder (parts.getLastD "")
    else if folder.getLast? = some markerStem && isFolder folder.dropLast then
      .error (.throughMarker name)
    else .error (.unknown name)

end Zones
end Time
end Cadence
