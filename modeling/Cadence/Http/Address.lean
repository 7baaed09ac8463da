/-
# Addresses

An address says how to reach something: a scheme, a host with perhaps a user and the number of a
socket, a path, a query and a fragment. Any text without control characters is read as an address;
parts that it does not have are empty. Characters that may not stand in a part are escaped, names of
hosts are written as they are on the wire, the socket that goes with the scheme is left out, and
points in a path that lead nowhere or up are followed.

An address without a scheme or without a host is not complete. It is taken as a path and a query at
another address.

Key definitions: `Address`, `Address.Flaw`, `Address.read`, `Address.text`, `Address.resolvedAt`.
-/
import Cadence.Http.Host
import Cadence.Text.Blank
import Cadence.Text.Ranges

namespace Cadence
namespace Http

/-- An address. A scheme, a user or a host that is empty is none. -/
structure Address where
  scheme : String
  user : String
  host : String
  socket : Option Int
  path : String
  query : Option String
  fragment : Option String
  deriving Repr, DecidableEq, Inhabited

namespace Address

/-- Why a text is no address. -/
inductive Flaw where
  | tooLong
  | control (c : Char) (position : Nat)
  | host (flaw : Host.Flaw) (host : String)
  | socket (number : String)
  | bareName
  | slashes
  | colon
  deriving Repr, DecidableEq, Inhabited

/-- A flaw in words. -/
def Flaw.message : Flaw → String
  | tooLong => "URL too long"
  | control c position =>
    "Invalid non-printable ASCII character in URL, " ++ Text.quoted (String.singleton c) ++
      " at position " ++ toString position ++ "."
  | host .quad h => "Invalid IPv4 address: " ++ Text.quoted h
  | host .words h => "Invalid IPv6 address: " ++ Text.quoted h
  | host .name h => "Invalid IDNA hostname: " ++ Text.quoted h
  | socket n => "Invalid port: " ++ Text.quoted n
  | bareName => "For absolute URLs, path must be empty or begin with '/'"
  | slashes => "Relative URLs cannot have a path starting with '//'"
  | colon => "Relative URLs cannot have a path starting with ':'"

/-- The most characters that an address may have. -/
def greatestLength : Nat := 65536

/-- Whether a character is a control character. -/
def isControl (c : Char) : Bool := c.toNat < 0x20 || c.toNat = 0x7f

/-- Whether a character stands for itself in a part of an address, where some plain characters do
not. The percent sign does, since it starts what is escaped already. -/
def stands (escaped : String) (c : Char) : Bool :=
  0x20 < c.toNat && c.toNat < 0x7f && !escaped.toList.contains c

/-- The characters that are escaped in a fragment. -/
def escapedInFragment : String := "\"<>\x60"

/-- The characters that are escaped in a query. -/
def escapedInQuery : String := "\"#<>"

/-- The characters that are escaped in a path. -/
def escapedInPath : String := "\"#<>?\x60\x7b\x7d"

/-- The characters that are escaped in a user. -/
def escapedInUser : String := "\"#<>?\x60\x7b\x7d/;=@[\\]^|"

/-- A part of an address with the characters escaped that may not stand in it. -/
def escape (escaped : String) (cs : List Char) : String :=
  String.ofList (Text.Percent.escape (stands escaped) cs)

/-- The parts of a text as they stand. -/
structure Parts where
  scheme : List Char
  authority : List Char
  path : List Char
  query : Option (List Char)
  fragment : Option (List Char)

/-- A text split behind its scheme. A colon at its start ends a scheme that is empty. -/
def splitScheme (cs : List Char) : List Char × List Char :=
  let isSchemeChar (c : Char) : Bool := c.isAlphanum || c = '+' || c = '.' || c = '-'
  let scheme := cs.takeWhile isSchemeChar
  match cs.drop scheme.length with
  | ':' :: rest => if (scheme.head?.all Char.isAlpha) then (scheme, rest) else ([], cs)
  | _ => ([], cs)

/-- A text split before the first of some characters. -/
def splitBefore (stops : List Char) (cs : List Char) : List Char × List Char :=
  (cs.takeWhile fun c => !stops.contains c, cs.dropWhile fun c => !stops.contains c)

/-- The parts of a text. -/
def Parts.of (cs : List Char) : Parts :=
  let (scheme, rest) := splitScheme cs
  let (authority, rest) := match rest with
    | '/' :: '/' :: more => splitBefore ['/', '?', '#'] more
    | rest => ([], rest)
  let (path, rest) := splitBefore ['?', '#'] rest
  let (query, rest) := match rest with
    | '?' :: more => (splitBefore ['#'] more).map some id
    | rest => (none, rest)
  ⟨scheme, authority, path, query, rest.tail? ⟩

/-- The user, the host and the socket of an authority. A host in brackets may have colons in it. -/
def splitAuthority (cs : List Char) : List Char × List Char × List Char :=
  let behind := (cs.reverse.takeWhile (· ≠ '@')).reverse
  let user := cs.take (cs.length - behind.length - 1)
  let bracketed := (behind.reverse.dropWhile (· ≠ ']')).reverse
  let host := if behind.head? = some '[' && !bracketed.isEmpty then bracketed
    else behind.takeWhile (· ≠ ':')
  match behind.drop host.length with
  | ':' :: socket => (user, host, socket)
  | socket => (user, host, socket)

/-- The number in digits of any script, with single underscores between them. -/
def digitsOf? (cs : List Char) : Option Nat := do
  let groups := cs.splitOn '_'
  let digits ← groups.flatten.mapM Text.decimalDigit?
  if groups.all (!·.isEmpty) && digits.length ≤ 4300 then
    some (digits.foldl (fun n d => n * 10 + d) 0)
  else none

/-- The number in digits with perhaps a sign, and blanks around it. -/
def numberOf? (cs : List Char) : Option Int :=
  match Text.trimChars cs with
  | '-' :: ds => (digitsOf? ds).map fun n => -(n : Int)
  | '+' :: ds => (digitsOf? ds).map Int.ofNat
  | ds => (digitsOf? ds).map Int.ofNat

/-- The sockets that go with schemes. -/
def usualSockets : List (String × Int) :=
  [("ftp", 21), ("http", 80), ("https", 443), ("ws", 80), ("wss", 443)]

/-- The socket of an address, unless it is the usual one of its scheme. The scheme counts as it is
written. -/
def readSocket (scheme cs : List Char) : Except Flaw (Option Int) :=
  if cs.isEmpty then .ok none
  else match numberOf? cs with
    | none => .error (.socket (String.ofList cs))
    | some n => .ok (if usualSockets.lookup (String.ofList scheme) = some n then none else some n)

/-- The names of a path with points followed. A path never leads above its start. -/
def followPoints (out : List (List Char)) : List (List Char) → List (List Char)
  | [] => out
  | part :: rest =>
    if part = ['.'] then followPoints out rest
    else if part = ['.', '.'] then
      followPoints (if out = [[]] then out else out.dropLast) rest
    else followPoints (out ++ [part]) rest

/-- A path with points followed. -/
def followed (path : List Char) : List Char :=
  ['/'].intercalate (followPoints [] (path.splitOn '/'))

/-- What is wrong with a path. -/
def flawOfPath? (hasScheme hasHost : Bool) (path : List Char) : Option Flaw :=
  if hasHost then
    if path.isEmpty || path.head? = some '/' then none else some .bareName
  else if hasScheme then none
  else if ['/', '/'].isPrefixOf path then some .slashes
  else if path.head? = some ':' then some .colon
  else none

/-- What is wrong with the characters of a text. -/
def flawOfText? (cs : List Char) : Option Flaw :=
  if greatestLength < cs.length then some .tooLong
  else (cs.findIdx? isControl).bind fun i => (cs[i]?).map fun c => .control c i

/-- Reads an address. -/
def read (s : String) : Except Flaw Address := do
  let cs := s.toList
  if let some flaw := flawOfText? cs then throw flaw
  let p := Parts.of cs
  let (user, host, socket) := splitAuthority p.authority
  let user := escape escapedInUser user
  let host ← (Host.read host).mapError fun flaw => .host flaw (String.ofList host)
  let socket ← readSocket p.scheme socket
  let hasScheme := !p.scheme.isEmpty
  let hasHost := user ≠ "" || host ≠ "" || socket.isSome
  if let some flaw := flawOfPath? hasScheme hasHost p.path then throw flaw
  let path := if hasScheme || hasHost then followed p.path else p.path
  return ⟨String.ofList (Text.lowerChars p.scheme), user, host, socket, escape escapedInPath path,
    p.query.map (escape escapedInQuery), p.fragment.map (escape escapedInFragment)⟩

/-- The user, the host and the socket of an address as they are written. -/
def authority (a : Address) : String :=
  (if a.user = "" then "" else a.user ++ "@") ++
    (if a.host.toList.contains ':' then "[" ++ a.host ++ "]" else a.host) ++
    (a.socket.map fun n => ":" ++ toString n).getD ""

/-- An address as it is written. -/
def text (a : Address) : String :=
  (if a.scheme = "" then "" else a.scheme ++ ":") ++
    (if a.authority = "" then "" else "//" ++ a.authority) ++ a.path ++
    (a.query.map ("?" ++ ·)).getD "" ++ (a.fragment.map ("#" ++ ·)).getD ""

/-- Whether an address says how to reach something. -/
def isComplete (a : Address) : Bool := a.scheme ≠ "" && a.host ≠ ""

/-- No address at all. -/
def nowhere : Address := ⟨"", "", "", none, "", none, none⟩

/-- An address as it is meant at another address: if it is not complete, its path and its query
there. -/
def resolvedAt (a base : Address) : Address :=
  if a.isComplete then a
  else
    let path := if a.path = "" then ['/'] else a.path.toList
    let path := '/' :: path.dropWhile (· = '/')
    let path := if base.isComplete then followed path else path
    { base with path := String.ofList path, query := a.query, fragment := none }

end Address
end Http
end Cadence
