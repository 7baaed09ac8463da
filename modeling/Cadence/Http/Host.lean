/-
# Hosts

A host in an address is a number of four bytes, a number of eight words in square brackets, or a
name. A name of plain characters is written in small letters, with the characters escaped that may
not stand in one; any other name is written by the rules for names of all scripts.

Key definitions: `Host.isQuad`, `Host.isNumber`, `Host.read`.
-/
import Cadence.Http.Name
import Cadence.Text.Lower
import Cadence.Text.Percent
import Cadence.Text.Quoted

namespace Cadence
namespace Http
namespace Host

/-- Whether a text is a byte in decimal digits without zeros before it. -/
def isByte (cs : List Char) : Bool :=
  !cs.isEmpty && cs.all Char.isDigit && cs.length ≤ 3 && (cs.length = 1 || cs.head? != some '0') &&
    cs.foldl (fun n c => n * 10 + (c.toNat - 48)) 0 ≤ 255

/-- Whether a text is four bytes with points between them. -/
def isQuad (cs : List Char) : Bool :=
  let parts := cs.splitOn '.'
  parts.length = 4 && parts.all isByte

/-- Whether a text could be meant for four numbers: four rows of digits with any character between
them, be it a digit itself. -/
def resemblesQuad (cs : List Char) : Bool :=
  let rows := cs.splitOnP fun c => !c.isDigit
  rows.all (!·.isEmpty) && rows.length ≤ 4 &&
    3 ≤ rows.foldl (fun n row => n + (row.length - 1) / 2) (rows.length - 1)

/-- Whether a text is a word of up to four hexadecimal digits. -/
def isWord (cs : List Char) : Bool :=
  !cs.isEmpty && cs.length ≤ 4 &&
    cs.all fun c => c.isDigit || ('a' ≤ c && c ≤ 'f') || ('A' ≤ c && c ≤ 'F')

/-- The words between colons; four bytes at the end count as two words. -/
def wordsOf? (cs : List Char) : Option (List (List Char)) :=
  let parts := cs.splitOn ':'
  let last := parts.getLast?.getD []
  if last.contains '.' then
    if isQuad last then some (parts.dropLast ++ [['0'], ['0']]) else none
  else some parts

/-- Whether words with one gap are a number: the gap stands for one word at least. -/
def hasGap (before after : List (List Char)) : Bool :=
  let before := if before = [[]] then [] else before
  let after := if after = [[]] then [] else after
  before.length + after.length ≤ 7 && before.all isWord && after.all isWord

/-- Whether a text is eight words with colons between them, of which two colons together may stand
for some. -/
def areWords (cs : List Char) : Bool :=
  match wordsOf? cs with
  | none => false
  | some words =>
    match ((words.drop 1).dropLast).findIdx? (·.isEmpty) with
    | some i => hasGap (words.take (i + 1)) (words.drop (i + 2))
    | none => words.length = 8 && words.all isWord

/-- Whether a text is a number of eight words. A zone may follow after a percent sign. -/
def isNumber (cs : List Char) : Bool :=
  let words := cs.takeWhile (· ≠ '%')
  let zoneStands := match cs.dropWhile (· ≠ '%') with
    | [] => true
    | _ :: zone => !zone.isEmpty && !zone.contains '%'
  zoneStands && !cs.contains '/' && 3 ≤ (words.splitOn ':').length && areWords words

/-- Whether a plain character stands for itself in a host. -/
def isHostChar (c : Char) : Bool :=
  c.isAlphanum || "-._~!$&'()*+,;=\"%|\\".toList.contains c || c = Char.ofNat 0x60 ||
    c = '\x7b' || c = '\x7d'

/-- Why a text is no host. -/
inductive Flaw where
  | quad
  | words
  | name
  deriving Repr, DecidableEq, Inhabited

/-- The host that a text stands for. A number of eight words loses its brackets. -/
def read (cs : List Char) : Except Flaw String :=
  if cs.isEmpty then .ok ""
  else if resemblesQuad cs then
    if isQuad cs then .ok (String.ofList cs) else .error .quad
  else if cs.head? = some '[' && cs.getLast? = some ']' then
    let inner := (cs.drop 1).dropLast
    if isNumber inner then .ok (String.ofList inner) else .error .words
  else if cs.all Name.isPlain then
    .ok (String.ofList (Text.Percent.escape isHostChar (Text.lowerChars cs)))
  else match Name.wire? (Text.lowerChars cs) with
    | some form => .ok form
    | none => .error .name

end Host
end Http
end Cadence
