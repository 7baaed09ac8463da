/-
# Binary64 numbers as exact values

A `Binary64` is a value of the 64-bit binary format, held exactly: a sign, a mantissa below
`2 ^ 53` and a power of two, or an infinity, or not-a-number. Every operation is integer
arithmetic followed by one rounding, so nothing here depends on the machine.

`Binary64.ofRatio` is the one rounding: the value of the format nearest to a fraction, a tie going
to the even mantissa, and infinity beyond the largest finite value.

Key definitions: `Binary64`, `Binary64.ofRatio`, `Binary64.mul`, `Binary64.truncate`,
`Binary64.compareInt`.
-/
namespace Cadence

/-- A value of the 64-bit binary floating-point format. A finite value is
`± mantissa * 2 ^ exponent`; the functions below build it with `mantissa < 2 ^ 53`,
`-1074 ≤ exponent`, and `2 ^ 52 ≤ mantissa` unless the exponent is the least one. -/
inductive Binary64 where
  | finite (negative : Bool) (mantissa : Nat) (exponent : Int)
  | infinite (negative : Bool)
  | nan
  deriving DecidableEq, Repr, Inhabited

/-- The quotient `num / den` rounded to an integer, a tie going to the even one. -/
def divRoundEven (num den : Nat) : Nat :=
  let q := num / den
  let r := num % den
  if 2 * r < den then q
  else if den < 2 * r then q + 1
  else if q % 2 = 0 then q else q + 1

namespace Binary64

/-- The least exponent of a finite value. -/
def minExponent : Int := -1074

/-- The greatest exponent of a finite value. -/
def maxExponent : Int := 971

/-- Zero with a sign. -/
def zero (negative : Bool) : Binary64 := .finite negative 0 minExponent

/-- `num / den / 2 ^ e` as a fraction of naturals. -/
def scaleRatio (num den : Nat) (e : Int) : Nat × Nat :=
  if 0 ≤ e then (num, den * Nat.pow 2 e.toNat) else (num * Nat.pow 2 (-e).toNat, den)

/-- The exponent of the last place of `num / den`: the mantissa has 53 bits, or fewer where the
format runs out of exponents. -/
def ratioExponent (num den : Nat) : Int :=
  let guess : Int := (Nat.log2 num : Int) - (Nat.log2 den : Int)
  let (n, d) := scaleRatio num den guess
  let top := if n < d then guess - 1 else guess
  max (top - 52) minExponent

/-- The value nearest to `± num / den`, a tie going to the even mantissa. -/
def ofRatio (negative : Bool) (num den : Nat) : Binary64 :=
  if num = 0 then zero negative
  else
    let e := ratioExponent num den
    let (n, d) := scaleRatio num den e
    let m := divRoundEven n d
    let (m, e) := if m = Nat.pow 2 53 then (Nat.pow 2 52, e + 1) else (m, e)
    if maxExponent < e then .infinite negative else .finite negative m e

/-- The value nearest to an integer. -/
def ofInt (i : Int) : Binary64 := ofRatio (i < 0) i.natAbs 1

/-- The value nearest to `± digits * 10 ^ scale`. Scales far outside the format are settled
without building the power of ten: a number of `b` bits has more than `3 * b / 10` decimal digits
and at most `b / 3 + 1`. -/
def ofDecimal (negative : Bool) (digits : Nat) (scale : Int) : Binary64 :=
  if digits = 0 then zero negative
  else
    let bits : Int := Nat.log2 digits
    if 400 < bits * 3 / 10 + scale then .infinite negative
    else if bits / 3 + scale < -800 then zero negative
    else if 0 ≤ scale then ofRatio negative (digits * Nat.pow 10 scale.toNat) 1
    else ofRatio negative digits (Nat.pow 10 (-scale).toNat)

/-- Whether the sign is minus. -/
def isNegative : Binary64 → Bool
  | .finite s _ _ => s
  | .infinite s => s
  | .nan => false

/-- Whether the value is neither zero nor negative zero; not-a-number counts as nonzero. -/
def isNonzero : Binary64 → Bool
  | .finite _ m _ => m != 0
  | _ => true

/-- Whether the value is a number, neither infinite nor not-a-number. -/
def isFinite : Binary64 → Bool
  | .finite .. => true
  | _ => false

/-- The magnitude of a finite value as a fraction of naturals. -/
def ratio (mantissa : Nat) (exponent : Int) : Nat × Nat :=
  if 0 ≤ exponent then (mantissa * Nat.pow 2 exponent.toNat, 1)
  else (mantissa, Nat.pow 2 (-exponent).toNat)

/-- The integer that a finite value is, if it has no fractional part. -/
def toInt? : Binary64 → Option Int
  | .finite s m e =>
    let (n, d) := ratio m e
    if n % d = 0 then some (if s then -((n / d : Nat) : Int) else (n / d : Nat)) else none
  | _ => none

/-- The integer part of a finite value, toward zero. -/
def truncate : Binary64 → Option Int
  | .finite s m e =>
    let (n, d) := ratio m e
    some (if s then -((n / d : Nat) : Int) else (n / d : Nat))
  | _ => none

/-- The product, rounded once. Zero times infinity and not-a-number give not-a-number. -/
def mul : Binary64 → Binary64 → Binary64
  | .finite s m e, .finite s' m' e' =>
    let (n, d) := ratio (m * m') (e + e')
    ofRatio (s != s') n d
  | .infinite s, .finite s' m' _ => if m' = 0 then .nan else .infinite (s != s')
  | .finite s m _, .infinite s' => if m = 0 then .nan else .infinite (s != s')
  | .infinite s, .infinite s' => .infinite (s != s')
  | _, _ => .nan

/-- The value as a signed fraction, for a finite value. -/
def signedRatio : Binary64 → Option (Int × Nat)
  | .finite s m e =>
    let (n, d) := ratio m e
    some (if s then -(n : Int) else n, d)
  | _ => none

/-- The order of a value against an integer, exactly; not-a-number has none. -/
def compareInt : Binary64 → Int → Option Ordering
  | .nan, _ => none
  | .infinite s, _ => some (if s then .lt else .gt)
  | x, i => x.signedRatio.map fun (n, d) => compare n (i * d)

/-- Whether the value lies below an integer; not-a-number does not. -/
def ltInt (x : Binary64) (i : Int) : Bool := x.compareInt i == some .lt

/-- Whether the value lies above an integer; not-a-number does not. -/
def gtInt (x : Binary64) (i : Int) : Bool := x.compareInt i == some .gt

/-- Whether a value is less than another; not-a-number neither is nor is exceeded. -/
def less : Binary64 → Binary64 → Bool
  | .nan, _ | _, .nan => false
  | .infinite s, .infinite t => s && !t
  | .infinite s, .finite .. => s
  | .finite .., .infinite t => !t
  | x, y =>
    match x.signedRatio, y.signedRatio with
    | some (n, d), some (k, l) => n * l < k * d
    | _, _ => false

end Binary64
end Cadence
