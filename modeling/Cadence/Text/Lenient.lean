/-
# Bytes read as text at any cost

Bytes that should be a text in its usual form of one to four bytes a character may be none. Here
they become a text all the same: every longest row of bytes that starts a character but does not
end it, and every byte that starts none, becomes the replacement character.

Key definitions: `Lenient.Pending`, `Lenient.decode`.
-/
namespace Cadence
namespace Text
namespace Lenient

/-- A character that has started: how many bytes it still needs, between which bounds the next one
must lie, and the value of those before it. -/
structure Pending where
  needed : Nat
  low : Nat
  high : Nat
  value : Nat
  deriving Repr, DecidableEq, Inhabited

/-- The replacement character. -/
def replacement : Char := '\uFFFD'

/-- What a byte starts: a character of its own, or one of several bytes. -/
def start (b : Nat) : List Char × Option Pending :=
  if b < 0x80 then ([Char.ofNat b], none)
  else if 0xC2 ≤ b && b < 0xE0 then ([], some ⟨1, 0x80, 0xBF, b - 0xC0⟩)
  else if b = 0xE0 then ([], some ⟨2, 0xA0, 0xBF, 0⟩)
  else if b = 0xED then ([], some ⟨2, 0x80, 0x9F, 0xD⟩)
  else if 0xE0 < b && b < 0xF0 then ([], some ⟨2, 0x80, 0xBF, b - 0xE0⟩)
  else if b = 0xF0 then ([], some ⟨3, 0x90, 0xBF, 0⟩)
  else if b = 0xF4 then ([], some ⟨3, 0x80, 0x8F, 4⟩)
  else if 0xF0 < b && b < 0xF4 then ([], some ⟨3, 0x80, 0xBF, b - 0xF0⟩)
  else ([replacement], none)

/-- What a byte makes of a character that has started. -/
def Pending.next (p : Pending) (b : Nat) : List Char × Option Pending :=
  if p.low ≤ b && b ≤ p.high then
    let value := p.value * 64 + (b - 0x80)
    if p.needed ≤ 1 then ([Char.ofNat value], none)
    else ([], some ⟨p.needed - 1, 0x80, 0xBF, value⟩)
  else
    let (cs, pending) := start b
    (replacement :: cs, pending)

/-- The characters of bytes after those of a character that has started. -/
def decodeFrom : Option Pending → List Nat → List Char
  | none, [] => []
  | some _, [] => [replacement]
  | pending, b :: rest =>
    let (cs, pending) := match pending with
      | none => start b
      | some p => p.next b
    cs ++ decodeFrom pending rest

/-- The characters of bytes. -/
def decode (bytes : List Nat) : List Char := decodeFrom none bytes

end Lenient
end Text
end Cadence
