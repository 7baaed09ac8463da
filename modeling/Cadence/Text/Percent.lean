/-
# Percent escapes

In addresses and forms a character that may not stand for itself is written by the bytes of its
UTF-8 form, each as a percent sign and two hexadecimal digits. Which characters stand for
themselves depends on the place.

Key definitions: `Percent.escapeByte`, `Percent.escapeChar`, `Percent.escape`.
-/
namespace Cadence
namespace Text
namespace Percent

/-- A hexadecimal digit, in capitals. -/
def hexDigit (n : Nat) : Char := Char.ofNat (if n < 10 then 48 + n else 55 + n)

/-- A byte as a percent sign and two digits. -/
def escapeByte (b : UInt8) : List Char := ['%', hexDigit (b.toNat / 16), hexDigit (b.toNat % 16)]

/-- A character by the bytes of its UTF-8 form. -/
def escapeChar (c : Char) : List Char := (String.utf8EncodeChar c).flatMap escapeByte

/-- Characters, those that `keep` refuses in their escaped form. -/
def escape (keep : Char → Bool) (cs : List Char) : List Char :=
  cs.flatMap fun c => if keep c then [c] else escapeChar c

end Percent
end Text
end Cadence
