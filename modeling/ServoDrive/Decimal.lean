import ServoDrive.Binary

/-!
# Decimal text of floats

The shortest decimal digits that read back as a binary64 value, and where they are written
positionally and where with an exponent.
-/

/-!
## Shortest decimal digits of a binary64 value

A finite nonzero value `v = m * 2 ^ q` stands for every real that rounds to it: the interval
from halfway to the next smaller value to halfway to the next larger one, with both ends included
exactly when `m` is even (a tie rounds to the even significand). The shortest decimal of `v` is a
decimal with the fewest significant digits inside that interval; of two such decimals the one
nearer to `v` wins, and of two equally near the one with the even last digit.

The search runs over the number of significant digits, 1 to 17. For `n` digits the decimals
considered lie on the grid `10 ^ k` with `k = e - n + 1`, where `10 ^ e ≤ v < 10 ^ (e + 1)`. If any
point of that grid lies in the interval, so does one of the two grid points around `v`, because
the interval holds `v` and has no holes; testing those two is therefore enough. All comparisons are
cross-multiplied integers, so nothing is rounded on the way.
-/

namespace ServoDrive.Decimal

/-- `a * 2 ^ α` compared with `b * 10 ^ β`, exactly. -/
def compareScaled (a : Nat) (α : Int) (b : Nat) (β : Int) : Ordering :=
  compare (a * Nat.pow 2 α.toNat * Nat.pow 10 (-β).toNat)
    (b * Nat.pow 10 β.toNat * Nat.pow 2 (-α).toNat)

/-- `⌊m * 2 ^ q / 10 ^ k⌋`. -/
def floorOnGrid (m : Nat) (q k : Int) : Nat :=
  m * Nat.pow 2 q.toNat * Nat.pow 10 (-k).toNat / (Nat.pow 2 (-q).toNat * Nat.pow 10 k.toNat)

/-- The number of decimal digits of `n`, and 0 for 0. -/
def digitCount (n : Nat) : Nat :=
  if h : n = 0 then 0 else digitCount (n / 10) + 1
termination_by n
decreasing_by omega

/-- The exponent `e` with `10 ^ e ≤ m * 2 ^ q < 10 ^ (e + 1)`, for `0 < m` and `-1100 ≤ q`: the
value scaled by `10 ^ 400` has at least one digit before the point. -/
def leadingExponent (m : Nat) (q : Int) : Int :=
  (digitCount (floorOnGrid m q (-400)) : Int) - 1 - 400

/-- A finite value as a significand and exponent of two, with the rounding interval's shape. -/
structure Dyadic where
  significand : Nat
  exponent : Int
  narrowBelow : Bool

namespace Dyadic

/-- Whether `c * 10 ^ k` reads back as the value: it lies in the rounding interval
`[4m - d, 4m + 2] * 2 ^ (q - 2)`, with `d = 1` when the gap below is narrow and `2` otherwise. -/
def readsBack (v : Dyadic) (c : Nat) (k : Int) : Bool :=
  let closed := v.significand % 2 == 0
  let low := compareScaled (4 * v.significand - if v.narrowBelow then 1 else 2) (v.exponent - 2) c k
  let high := compareScaled (4 * v.significand + 2) (v.exponent - 2) c k
  (low == .lt || (closed && low == .eq)) && (high == .gt || (closed && high == .eq))

/-- The point of grid `10 ^ k` chosen for the value, if one of the two around it reads back:
the nearer, and on a tie the even one. -/
def onGrid (v : Dyadic) (k : Int) : Option Nat :=
  let c := floorOnGrid v.significand v.exponent k
  match v.readsBack c k, v.readsBack (c + 1) k with
  | true, true =>
    match compareScaled (2 * v.significand) v.exponent (2 * c + 1) k with
    | .lt => some c
    | .gt => some (c + 1)
    | .eq => some (if c % 2 == 0 then c else c + 1)
  | true, false => some c
  | false, true => some (c + 1)
  | false, false => none

end Dyadic

/-- A decimal `digits * 10 ^ exponent`; `digits` has no trailing zero unless it is zero. -/
structure Digits where
  digits : Nat
  exponent : Int
  deriving DecidableEq, Repr

/-- Moves trailing zeros of the digits into the exponent. -/
def Digits.normalize (d : Nat) (e : Int) : Digits :=
  if h : d ≠ 0 ∧ d % 10 = 0 then normalize (d / 10) (e + 1) else ⟨d, e⟩
termination_by d
decreasing_by omega

/-- The shortest digits of a finite positive value, searching 1 to 17 significant digits; the
17-digit grid always holds a point that reads back. -/
def Dyadic.shortest (v : Dyadic) : Digits :=
  let e := leadingExponent v.significand v.exponent
  let hit := (List.range 17).findSome? fun (i : Nat) =>
    let k := e - (i : Int)
    (v.onGrid k).map fun c => Digits.normalize c k
  hit.getD (Digits.normalize (floorOnGrid v.significand v.exponent (e - 16)) (e - 16))

/-- The shortest digits of the magnitude of a finite value; zero has digits 0. -/
def shortestDigits (v : Binary64) : Digits :=
  if v.significand = 0 then ⟨0, 0⟩
  else Dyadic.shortest ⟨v.significand, v.exponent, v.narrowBelow⟩

end ServoDrive.Decimal

/-!
## Decimal text of a float

Where the shortest digits of a float are written positionally and where with an exponent, and how
each form looks, is one `Notation` record; `Notation.report` is the notation of every float this
library prints. With `len` digits and exponent `k`, the leading digit stands at place
`len + k - 1`: the number is positional when that place is at most `15` and the first digit is at
most four zeros after the point, and otherwise scientific with one digit before the point.
-/

namespace ServoDrive.Decimal

/-- The choices of a decimal notation. -/
structure Notation where
  /-- Most digits before the point in positional form. -/
  integerPlaces : Nat
  /-- Most zeros between the point and the first digit in positional form. -/
  leadingZeros : Nat
  /-- Text after the digits of a whole number, e.g. `.0`. -/
  wholeSuffix : String
  /-- Mark between digits and exponent. -/
  exponentMark : String
  nan : String
  infinity : String

/-- Up to sixteen places before the point and four zeros after it, `.0` after whole numbers,
`e` before the exponent with a sign only when negative, `NaN` and `inf`. -/
def Notation.report : Notation := ⟨16, 4, ".0", "e", "NaN", "inf"⟩

/-- The characters of a natural number, most significant first. -/
def digitChars (n : Nat) : List Char := (toString n).toList

/-- `n` zero characters. -/
def zeros (n : Nat) : String := String.ofList (List.replicate n '0')

/-- The text of digits `ds` (nonempty, no trailing zero) times `10 ^ k`. -/
def Notation.layout (f : Notation) (ds : List Char) (k : Int) : String :=
  let len : Int := ds.length
  let place := len + k
  if 0 ≤ k ∧ place ≤ f.integerPlaces then
    String.ofList ds ++ zeros k.toNat ++ f.wholeSuffix
  else if 0 < place ∧ place ≤ f.integerPlaces then
    String.ofList (ds.take place.toNat) ++ "." ++ String.ofList (ds.drop place.toNat)
  else if -(f.leadingZeros : Int) ≤ place ∧ place ≤ 0 then
    "0." ++ zeros (-place).toNat ++ String.ofList ds
  else
    let mantissa := match ds with
      | [d] => String.singleton d
      | d :: rest => String.singleton d ++ "." ++ String.ofList rest
      | [] => ""
    mantissa ++ f.exponentMark ++ toString (place - 1)

/-- The text of a binary64 value in the notation; zero is `0.0` or `-0.0`. -/
def Notation.write (f : Notation) (v : Binary64) : String :=
  let sign := if v.negative then "-" else ""
  if v.isNaN then f.nan
  else if !v.isFinite then sign ++ f.infinity
  else if v.significand = 0 then sign ++ "0" ++ f.wholeSuffix
  else
    let d := shortestDigits v
    sign ++ f.layout (digitChars d.digits) d.exponent

/-- The text of a binary64 value as this library reports it. -/
def text (v : Binary64) : String := Notation.report.write v

end ServoDrive.Decimal
