/-
# Names of hosts

The name of a host consists of labels with dots between them; besides the plain dot there are three
of East Asian scripts. A label with characters of all scripts is valid if each of them may stand
where it stands, the label is composed and does not start with a mark, hyphens stand inside it but
not both third and fourth, and it runs in one direction. On the wire such a label is written in
plain characters after the mark `xn--`; a label that starts with the mark must be the form of a
valid one.

Key definitions: `Name.isLabel`, `Name.wireLabel?`, `Name.wire?`.
-/
import Cadence.Http.Name.Context
import Cadence.Http.Name.Letter
import Cadence.Text.Composed
import Cadence.Text.Punycode

namespace Cadence
namespace Http
namespace Name

/-- The mark of a label that stands for one with other characters. -/
def mark : List Char := "xn--".toList

/-- Whether characters may stand after those before them, nearest first. -/
def allStand (before : List Char) : List Char → Bool
  | [] => true
  | c :: after => (isLetter c || mayStand before c after) && allStand (c :: before) after

/-- Whether hyphens stand where they may. -/
def hyphensStand (cs : List Char) : Bool :=
  (cs.drop 2).take 2 != ['-', '-'] && cs.head? != some '-' && cs.getLast? != some '-'

/-- Whether a text is a valid label. -/
def isLabel (cs : List Char) : Bool :=
  !cs.isEmpty && hyphensStand cs && allStand [] cs && !startsWithMark cs &&
    Text.isComposed cs && runsOneWay cs

/-- Whether a text of plain characters is a valid label, or stands for one. -/
def isPlainLabel (cs : List Char) : Bool :=
  if mark.isPrefixOf cs then
    cs.getLast? != some '-' && ((Text.Punycode.decode? (cs.drop mark.length)).any isLabel)
  else isLabel cs

/-- Whether a character is a plain one. -/
def isPlain (c : Char) : Bool := c.toNat < 128

/-- The form of a label on the wire, if it is valid and not too long. -/
def wireLabel? (cs : List Char) : Option (List Char) :=
  let valid := if cs.all isPlain then isPlainLabel cs else isLabel cs
  let form := if cs.all isPlain then cs else mark ++ Text.Punycode.encode cs
  if valid && form.length ≤ 63 then some form else none

/-- Whether a character is a dot. -/
def isDot (c : Char) : Bool := ['.', '。', '．', '｡'].contains c

/-- The form of a name on the wire, if it is valid and not too long. There may be a dot at its
end. -/
def wire? (cs : List Char) : Option String := do
  let labels := cs.splitOnP isDot
  let hasEnd := labels.getLast? = some []
  let forms ← (if hasEnd then labels.dropLast else labels).mapM wireLabel?
  let form := ['.'].intercalate (if hasEnd then forms ++ [[]] else forms)
  let longest := if hasEnd then 254 else 253
  if cs.length ≤ 254 && form.length ≤ longest then some (String.ofList form) else none

end Name
end Http
end Cadence
