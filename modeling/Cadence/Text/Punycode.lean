/-
# Texts in letters, digits and hyphens

Names on a network have letters, digits and hyphens only. A text with other characters is written
as its plain characters, a hyphen, and a row of digits that says which other characters go where:
they are put in by increasing code point, and each number of the row counts the places that are
passed over since the last one. A number has its least digit first; a digit below a threshold ends
it. Thresholds follow a bias, which adapts to the size of the numbers so far.

Key definitions: `Punycode.encode`, `Punycode.decode?`.
-/
namespace Cadence
namespace Text
namespace Punycode

/-- A digit of base 36: letters first, then the decimal digits. -/
def digitChar (d : Nat) : Char := Char.ofNat (if d < 26 then 97 + d else 22 + d)

/-- The value of a digit of base 36. -/
def digitValue? (c : Char) : Option Nat :=
  if 'a' ≤ c && c ≤ 'z' then some (c.toNat - 97)
  else if 'A' ≤ c && c ≤ 'Z' then some (c.toNat - 65)
  else if '0' ≤ c && c ≤ '9' then some (c.toNat - 22)
  else none

/-- The threshold of the digit whose place is `k / 36`, counted from one. -/
def threshold (bias k : Nat) : Nat := min 26 (max 1 (k - bias))

theorem threshold_pos (bias k : Nat) : 1 ≤ threshold bias k := by
  unfold threshold
  omega

/-- A difference brought below 456 by divisions, each of which adds 36 to the bias. -/
def damp (delta bias : Nat) : Nat × Nat :=
  if 455 < delta then damp (delta / 35) (bias + 36) else (delta, bias)
termination_by delta
decreasing_by exact Nat.div_lt_self (by omega) (by omega)

/-- The bias after a difference, the first one or a later one, in a text of some length. -/
def adapt (delta length : Nat) (isFirst : Bool) : Nat :=
  let delta := if isFirst then delta / 700 else delta / 2
  let (delta, bias) := damp (delta + delta / length) 0
  bias + 36 * delta / (delta + 38)

/-- The digits of a number. -/
def digits (bias k n : Nat) : List Char :=
  let t := threshold bias k
  if n < t then [digitChar n]
  else digitChar (t + (n - t) % (36 - t)) :: digits bias (k + 36) ((n - t) / (36 - t))
termination_by n
decreasing_by
  have h := threshold_pos bias k
  exact Nat.lt_of_le_of_lt (Nat.div_le_self _ _) (by omega)

/-- A row of digits in the making: the digits, the places passed over, the bias, and how many
characters are put in. -/
structure Row where
  digits : List Char
  delta : Nat
  bias : Nat
  length : Nat

/-- Passes over a character if it is in already, and puts it in if its code point is `code`. -/
def Row.pass (plain code : Nat) (r : Row) (c : Char) : Row :=
  if c.toNat < code then { r with delta := r.delta + 1 }
  else if c.toNat = code then
    ⟨r.digits ++ Punycode.digits r.bias 36 r.delta, 0,
      adapt r.delta (r.length + 1) (r.length = plain), r.length + 1⟩
  else r

/-- Puts in the characters of some code points, in increasing order, of which those below `least`
are in already. -/
def Row.putIn (cs : List Char) (plain least : Nat) (r : Row) : List Nat → Row
  | [] => r
  | code :: codes =>
    let r := { r with delta := r.delta + (code - least) * (r.length + 1) }
    let r := cs.foldl (Row.pass plain code) r
    Row.putIn cs plain (code + 1) { r with delta := r.delta + 1 } codes

/-- A text in plain characters. -/
def encode (cs : List Char) : List Char :=
  let plain := cs.filter fun c => c.toNat < 128
  let codes := ((cs.filter fun c => 128 ≤ c.toNat).map Char.toNat).mergeSort.eraseDups
  let r := Row.putIn cs plain.length 128 ⟨[], 0, 72, plain.length⟩ codes
  (if plain.isEmpty then [] else plain ++ ['-']) ++ r.digits

/-- A text in the making: the text, the last code point and the next place, the bias, whether the
first number is still to come, and of the number that is being read the sum so far, the weight of
the next digit and its place. -/
structure Draft where
  text : List Char
  code : Nat
  place : Nat
  bias : Nat
  isFirst : Bool
  sum : Nat
  weight : Nat
  k : Nat

/-- Puts a character in at the place that a number says. -/
def Draft.insert? (d : Draft) (delta : Nat) : Option Draft :=
  let length := d.text.length + 1
  let place := d.place + delta
  let code := d.code + place / length
  if h : code.isValidChar then
    some ⟨d.text.insertIdx (place % length) (Char.ofNatAux code h), code, place % length + 1,
      adapt delta length d.isFirst, false, 0, 1, 36⟩
  else none

/-- Reads one digit. -/
def Draft.read? (d : Draft) (c : Char) : Option Draft := do
  let digit ← digitValue? c
  let t := threshold d.bias d.k
  let sum := d.sum + digit * d.weight
  if digit < t then d.insert? sum
  else some { d with sum, weight := d.weight * (36 - t), k := d.k + 36 }

/-- The text that is written in plain characters, if they are well formed. -/
def decode? (cs : List Char) : Option (List Char) := do
  let row := (cs.reverse.takeWhile (· ≠ '-')).reverse
  let plain := cs.take (cs.length - row.length - 1)
  let d ← row.foldlM Draft.read? ⟨plain, 128, 0, 72, true, 0, 1, 36⟩
  if d.k = 36 then some d.text else none

end Punycode
end Text
end Cadence
