/-
# Halves of pairs

Characters of two words are written as a pair of halves where words of 16 bits are written. A half
without its other half is no character. Readers that meet one keep it as a stand-in, a code point
that no character has, so that whoever uses the text can tell; such a text cannot be written.

Key definitions: `Half.standIn`, `Half.isStandIn`, `Half.isIn`.
-/
namespace Cadence
namespace Text
namespace Half

/-- The first half of a pair. -/
def isFirst (n : Nat) : Bool := 0xD800 ≤ n && n < 0xDC00

/-- The second half of a pair. -/
def isSecond (n : Nat) : Bool := 0xDC00 ≤ n && n < 0xE000

/-- The code point of a pair. -/
def join (first second : Nat) : Nat := 0x10000 + (first - 0xD800) * 0x400 + (second - 0xDC00)

/-- The stand-in of a half. -/
def standIn (n : Nat) : Char := Char.ofNat (0xE0000 + n)

/-- Whether a character stands for a half. -/
def isStandIn (c : Char) : Bool := 0xED800 ≤ c.toNat && c.toNat < 0xEE000

/-- Whether there is a half in a text. -/
def isIn (s : String) : Bool := s.toList.any isStandIn

/-- The character of a code point, or the stand-in of a half. -/
def charOf (n : Nat) : Char := if n.isValidChar then Char.ofNat n else standIn n

end Half
end Text
end Cadence
