/-
# Decimal texts of binary64 numbers

`Decimal.shortest` finds the fewest significant digits whose nearest binary64 value is the given
one, and among those the digits nearest to it. Both come from exact arithmetic: the reals that
round to `m * 2 ^ e` form an interval, and for `1, 2, …, 17` digits the two neighbours of the value
on that decimal grid are tested against it.

A `Decimal.Layout` holds the decisions of one output format: where positional notation ends, how
the exponent is written, and what stands for the values that are not finite. `Decimal.render`
writes a value in a layout, `Decimal.general` writes six significant digits without trailing zeros,
and `Decimal.fixed` a given number of places.

Key definitions: `Decimal.shortest`, `Decimal.Layout`, `Decimal.render`, `Decimal.general`,
`Decimal.fixed`.
-/
import Cadence.Number.Binary64

namespace Cadence
namespace Decimal

/-- The decimal digits of a natural number, most significant first. -/
def digits (n : Nat) : List Char := Nat.toDigits 10 n

/-- The number of decimal digits of a natural number. -/
def length (n : Nat) : Nat := (digits n).length

/-- The point position of the fraction `n / d > 0`: the `p` with `10 ^ (p - 1) ≤ n / d < 10 ^ p`,
for fractions of at least `10 ^ (-340)`. -/
def pointPosition (n d : Nat) : Int :=
  (length (n * Nat.pow 10 340 / d) : Int) - 340

/-- The fraction `n / d` in units of `10 ^ u`, as a fraction. -/
def inUnits (n d : Nat) (u : Int) : Nat × Nat :=
  if 0 ≤ u then (n, d * Nat.pow 10 u.toNat) else (n * Nat.pow 10 (-u).toNat, d)

/-- Whether `k` units lie in the interval from `lo` to `hi`, both in the same units over the common
denominator `d`; the ends count if `closed`. -/
def within (lo hi d : Nat) (closed : Bool) (k : Nat) : Bool :=
  if closed then lo ≤ k * d && k * d ≤ hi else lo < k * d && k * d < hi

/-- The neighbour of `v / d` among the integers that lies in the interval and is nearest, if one
does. -/
def nearestWithin (lo v hi d : Nat) (closed : Bool) : Option Nat :=
  let k := v / d
  match within lo hi d closed k, within lo hi d closed (k + 1) with
  | true, true =>
    let r := v % d
    if 2 * r < d then some k
    else if d < 2 * r then some (k + 1)
    else if k % 2 = 0 then some k else some (k + 1)
  | true, false => some k
  | false, true => some (k + 1)
  | false, false => none

/-- The first digit count, from `17 - fuel` up, for which a decimal lies in the rounding interval
`(lo, hi)` around `v`, all three over the denominator `d`. -/
def searchDigits (lo v hi d : Nat) (closed : Bool) (p : Int) : Nat → Nat → Nat × Int
  | 0, count => (0, p - count)
  | fuel + 1, count =>
    let u := p - count
    let (lo', d') := inUnits lo d u
    let (v', _) := inUnits v d u
    let (hi', _) := inUnits hi d u
    match nearestWithin lo' v' hi' d' closed with
    | some k => (k, u)
    | none => searchDigits lo v hi d closed p fuel (count + 1)

/-- The fewest digits that read back as `m * 2 ^ e`, as digits and a power of ten. The interval
reaches half a unit of the last place to each side, a quarter below where the mantissa is the least
of its range. -/
def shortest (m : Nat) (e : Int) : Nat × Int :=
  if m = 0 then (0, 0)
  else
    let below := if m = Nat.pow 2 52 ∧ Binary64.minExponent < e then 1 else 2
    let (v, d) := Binary64.ratio (4 * m) (e - 2)
    let (lo, _) := Binary64.ratio (4 * m - below) (e - 2)
    let (hi, _) := Binary64.ratio (4 * m + 2) (e - 2)
    searchDigits lo v hi d (m % 2 = 0) (pointPosition v d) 18 1

/-- The digits without trailing zeros, and the power of ten that makes up for them. -/
def trimZeros : List Char → List Char
  | cs => (cs.reverse.dropWhile (· = '0')).reverse

/-- The decisions of one number format. -/
structure Layout where
  /-- The least point position written positionally. -/
  least : Int
  /-- The greatest point position written positionally. -/
  most : Int
  /-- Whether the exponent carries a plus sign. -/
  plusSign : Bool
  /-- The least number of exponent digits. -/
  exponentWidth : Nat
  /-- Whether a positional integer ends in a point and a zero. -/
  pointZero : Bool
  /-- The texts of infinity and of not-a-number. -/
  infinity : String
  notANumber : String

/-- Zeros in front of a digit list up to a width. -/
def padLeft (width : Nat) (cs : List Char) : List Char :=
  List.replicate (width - cs.length) '0' ++ cs

/-- The exponent part: the letter, the sign and the digits. -/
def exponentPart (layout : Layout) (x : Int) : List Char :=
  let sign := if x < 0 then ['-'] else if layout.plusSign then ['+'] else []
  'e' :: sign ++ padLeft layout.exponentWidth (digits x.natAbs)

/-- Digits `d₁ d₂ …` whose point stands after the first `p` of them. -/
def positional (layout : Layout) (ds : List Char) (p : Int) : List Char :=
  if p ≤ 0 then '0' :: '.' :: List.replicate (-p).toNat '0' ++ ds
  else
    let whole := ds.take p.toNat
    let whole := whole ++ List.replicate (p.toNat - whole.length) '0'
    let rest := ds.drop p.toNat
    if rest.isEmpty then (if layout.pointZero then whole ++ ['.', '0'] else whole)
    else whole ++ '.' :: rest

/-- Digits in scientific notation, the point after the first. -/
def scientific (layout : Layout) (ds : List Char) (p : Int) : List Char :=
  match ds with
  | [] => []
  | [d] => d :: exponentPart layout (p - 1)
  | d :: rest => d :: '.' :: rest ++ exponentPart layout (p - 1)

/-- The digits `ds`, the point after the first `p`, in a layout. -/
def place (layout : Layout) (ds : List Char) (p : Int) : List Char :=
  if layout.least ≤ p ∧ p ≤ layout.most then positional layout ds p else scientific layout ds p

/-- A value in a layout, with the fewest digits that read back. -/
def render (layout : Layout) : Binary64 → String
  | .nan => layout.notANumber
  | .infinite s => (if s then "-" else "") ++ layout.infinity
  | .finite s m e =>
    let sign := if s then ['-'] else []
    if m = 0 then String.ofList (sign ++ positional layout ['0'] 1)
    else
      let (k, u) := shortest m e
      let all := digits k
      String.ofList (sign ++ place layout (trimZeros all) (all.length + u))

/-- Numbers inside reports and stored step outputs: positional from `1e-4` up to `1e16`, an exponent
of at least two digits with its sign. -/
def plain : Layout :=
  { least := -3, most := 16, plusSign := true, exponentWidth := 2, pointZero := true,
    infinity := "inf", notANumber := "nan" }

/-- A number of `count` or `count + 1` digits as `count` of them, with the point position for the
digits that `p` is the position of: the digit dropped is a zero. -/
def firstDigits (count k : Nat) (p : Int) : List Char × Int :=
  if length k > count then (digits (k / 10), p + 1) else (digits k, p)

/-- The digits of `n / d` rounded to `count` significant ones, a tie to even, and the point
position. -/
def significant (n d : Nat) (count : Nat) : List Char × Int :=
  let p := pointPosition n d
  let units := inUnits n d (p - count)
  firstDigits count (divRoundEven units.1 units.2) p

/-- Six significant digits, trailing zeros dropped; an exponent below `1e-4` and from `1e6` on. -/
def general : Binary64 → String
  | .nan => "nan"
  | .infinite s => if s then "-inf" else "inf"
  | .finite s m e =>
    let sign := if s then ['-'] else []
    if m = 0 then String.ofList (sign ++ ['0'])
    else
      let ratio := Binary64.ratio m e
      let rounded := significant ratio.1 ratio.2 6
      let layout := { plain with most := 6, pointZero := false }
      String.ofList (sign ++ place layout (trimZeros rounded.1) rounded.2)

/-- A fixed number of places, a half going to the even neighbour. -/
def fixed (places : Nat) : Binary64 → String
  | .nan => "nan"
  | .infinite s => if s then "-inf" else "inf"
  | .finite s m e =>
    let (n, d) := Binary64.ratio m e
    let k := divRoundEven (n * Nat.pow 10 places) d
    let ds := padLeft (places + 1) (digits k)
    let whole := ds.take (ds.length - places)
    let rest := ds.drop (ds.length - places)
    let point := if places = 0 then [] else ['.']
    String.ofList ((if s then ['-'] else []) ++ whole ++ point ++ rest)

end Decimal
end Cadence
