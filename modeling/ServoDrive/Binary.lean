/-!
# Binary floats

Binary64 and binary32 values taken apart into a sign, an exponent and a fraction, and converted by
exact arithmetic on those parts: to integers, and from binary64 to binary32 and back.
-/

/-!
## Binary64 values by their parts

A 64-bit float is a sign bit, an 11-bit biased exponent and a 52-bit fraction. Every question this
library asks of a float (its decimal text, its nearest integer, a saturating conversion) is
answered from these parts in exact `Nat` arithmetic: a finite value is `significand * 2 ^ exponent`
with the sign in front.

The bit pattern is taken as it is: a NaN keeps its payload and `-0.0` keeps its sign.
-/

namespace ServoDrive

/-- The three fields of a binary64 bit pattern. -/
structure Binary64 where
  negative : Bool
  biasedExponent : Nat
  fraction : Nat
  deriving DecidableEq, Repr

namespace Binary64

/-- The fields of a bit pattern: bit 63, bits 52 to 62, bits 0 to 51. -/
def ofBits (b : UInt64) : Binary64 :=
  ⟨b.toNat / Nat.pow 2 63 = 1, b.toNat / Nat.pow 2 52 % Nat.pow 2 11, b.toNat % Nat.pow 2 52⟩

/-- The fields of a float. -/
def ofFloat (x : Float) : Binary64 := ofBits x.toBits

/-- Infinities and NaNs have every exponent bit set. -/
def isFinite (v : Binary64) : Bool := v.biasedExponent < 2047

def isNaN (v : Binary64) : Bool := v.biasedExponent = 2047 ∧ v.fraction ≠ 0

/-- The integer significand: the fraction with the hidden bit, except for subnormals. -/
def significand (v : Binary64) : Nat :=
  if v.biasedExponent = 0 then v.fraction else v.fraction + Nat.pow 2 52

/-- The exponent of two that scales the significand. -/
def exponent (v : Binary64) : Int :=
  if v.biasedExponent = 0 then -1074 else (v.biasedExponent : Int) - 1075

/-- The gap to the next smaller value is half the gap to the next larger one: the significand is
a power of two that is not the smallest normal. -/
def narrowBelow (v : Binary64) : Bool := v.fraction = 0 ∧ v.biasedExponent > 1

/-- The bit pattern of the fields, for fields in range. -/
def toBits (v : Binary64) : UInt64 :=
  ((if v.negative then Nat.pow 2 63 else 0) + v.biasedExponent * Nat.pow 2 52 +
    v.fraction).toUInt64

/-- The float with these fields. -/
def toFloat (v : Binary64) : Float := Float.ofBits v.toBits

end Binary64

/-- The number of binary digits of `n`, and 0 for 0. -/
def binaryLength (n : Nat) : Nat :=
  if h : n = 0 then 0 else binaryLength (n / 2) + 1
termination_by n
decreasing_by omega

/-- `m * 2 ^ s` rounded to the nearest integer, a tie to the even one. -/
def roundHalfEven (m : Nat) (s : Int) : Nat :=
  if 0 ≤ s then m * Nat.pow 2 s.toNat
  else
    let d := Nat.pow 2 (-s).toNat
    let whole := m / d
    let rest := m % d
    if 2 * rest > d ∨ (2 * rest = d ∧ whole % 2 = 1) then whole + 1 else whole

end ServoDrive

/-!
## Floats to integers

A float becomes an integer of a fixed width in two steps: it is rounded to an integer by a rule,
then clamped into the width's range. A NaN gives 0 and an infinity the bound on its side, so every
float has an answer. This is the conversion every raw record field and every mailbox value in
milliamperes goes through.

Both rules work on the exact value `m * 2 ^ q`: `nearestAway` takes the nearest integer and a half
away from zero, `floor` the greatest integer not above the value.
-/

namespace ServoDrive

/-- How a value between two integers becomes one. -/
inductive IntRounding where
  /-- The nearest integer, a half away from zero. -/
  | nearestAway
  /-- The greatest integer not above the value. -/
  | floor
  deriving DecidableEq, Repr

/-- The value `±(m * 2 ^ q)` rounded to an integer by `rule`. -/
def IntRounding.apply (rule : IntRounding) (negative : Bool) (m : Nat) (q : Int) : Int :=
  let signed : Nat → Int := fun n => if negative then -(n : Int) else n
  if 0 ≤ q then signed (m * Nat.pow 2 q.toNat)
  else
    let d := Nat.pow 2 (-q).toNat
    let whole := m / d
    let rest := m % d
    match rule with
    | nearestAway => signed (if 2 * rest ≥ d then whole + 1 else whole)
    | floor => if negative then -((whole + if rest = 0 then 0 else 1 : Nat) : Int) else whole

/-- The value rounded by `rule` and clamped into `[low, high]`; a NaN gives 0 and an infinity the
bound on its side. -/
def Binary64.toIntClamped (v : Binary64) (rule : IntRounding) (low high : Int) : Int :=
  if v.isNaN then 0
  else if !v.isFinite then (if v.negative then low else high)
  else max low (min high (rule.apply v.negative v.significand v.exponent))

namespace IntRounding

/-- The float rounded by the rule into the range of a signed 16-bit integer. -/
def toInt16 (rule : IntRounding) (x : Float) : Int16 :=
  Int16.ofInt ((Binary64.ofFloat x).toIntClamped rule
    (-Int.ofNat (Nat.pow 2 15)) (Int.ofNat (Nat.pow 2 15 - 1)))

/-- The float rounded by the rule into the range of a signed 32-bit integer. -/
def toInt32 (rule : IntRounding) (x : Float) : Int32 :=
  Int32.ofInt ((Binary64.ofFloat x).toIntClamped rule
    (-Int.ofNat (Nat.pow 2 31)) (Int.ofNat (Nat.pow 2 31 - 1)))

/-- The float rounded by the rule into the range of an unsigned 16-bit integer. -/
def toUInt16 (rule : IntRounding) (x : Float) : UInt16 :=
  ((Binary64.ofFloat x).toIntClamped rule 0 (Int.ofNat (Nat.pow 2 16 - 1))).toNat.toUInt16

/-- The float rounded by the rule into the range of an unsigned 32-bit integer. -/
def toUInt32 (rule : IntRounding) (x : Float) : UInt32 :=
  ((Binary64.ofFloat x).toIntClamped rule 0 (Int.ofNat (Nat.pow 2 32 - 1))).toNat.toUInt32

end IntRounding

end ServoDrive

/-!
## Binary32 values

A 32-bit float is a sign bit, an 8-bit biased exponent and a 23-bit fraction. Every binary32 value
is also a binary64 value: `widen` gives its binary64 fields exactly, a subnormal becoming a normal
number. The other way, `ofBinary64` rounds a binary64 value to the nearest binary32 value, a tie to
the even significand; a value beyond the largest finite one becomes an infinity and one below half
the smallest subnormal becomes a zero of its sign. A NaN stays a quiet NaN with the upper bits of
its payload.
-/

namespace ServoDrive

/-- The three fields of a binary32 bit pattern. -/
structure Binary32 where
  negative : Bool
  biasedExponent : Nat
  fraction : Nat
  deriving DecidableEq, Repr

namespace Binary32

/-- The fields of a bit pattern: bit 31, bits 23 to 30, bits 0 to 22. -/
def ofBits (b : UInt32) : Binary32 :=
  ⟨b.toNat / Nat.pow 2 31 = 1, b.toNat / Nat.pow 2 23 % Nat.pow 2 8, b.toNat % Nat.pow 2 23⟩

/-- The bit pattern of the fields, for fields in range. -/
def toBits (v : Binary32) : UInt32 :=
  ((if v.negative then Nat.pow 2 31 else 0) + v.biasedExponent * Nat.pow 2 23 + v.fraction).toUInt32

/-- The same value as binary64 fields: the exponent is rebiased by `1023 - 127` and the fraction
widened by 29 bits; a subnormal `f * 2 ^ -149` is shifted until its leading bit is the hidden
one. -/
def widen (v : Binary32) : Binary64 :=
  if v.biasedExponent = 255 then ⟨v.negative, 2047, v.fraction * Nat.pow 2 29⟩
  else if v.biasedExponent = 0 then
    if v.fraction = 0 then ⟨v.negative, 0, 0⟩
    else
      let len := binaryLength v.fraction
      ⟨v.negative, 873 + len, v.fraction * Nat.pow 2 (53 - len) - Nat.pow 2 52⟩
  else ⟨v.negative, v.biasedExponent + 896, v.fraction * Nat.pow 2 29⟩

/-- The binary32 fields of `±(r * 2 ^ e)` for an `r` that needs no further rounding: at most 24
significant bits, or exactly `2 ^ 24` after a carry, and `e ≥ -149`. -/
def ofScaled (negative : Bool) (r : Nat) (e : Int) : Binary32 :=
  if r = 0 then ⟨negative, 0, 0⟩
  else
    let len := binaryLength r
    let top : Int := (len : Int) - 1 + e
    if top > 127 then ⟨negative, 255, 0⟩
    else if top ≥ -126 then
      let significand :=
        if len ≤ 24 then r * Nat.pow 2 (24 - len) else r / Nat.pow 2 (len - 24)
      ⟨negative, (top + 127).toNat, significand - Nat.pow 2 23⟩
    else ⟨negative, 0, r⟩

/-- The nearest binary32 value to a binary64 value, a tie to the even significand. -/
def ofBinary64 (v : Binary64) : Binary32 :=
  if v.isNaN then ⟨v.negative, 255, Nat.pow 2 22 + v.fraction / Nat.pow 2 29 % Nat.pow 2 22⟩
  else if !v.isFinite then ⟨v.negative, 255, 0⟩
  else if v.significand = 0 then ⟨v.negative, 0, 0⟩
  else
    let top : Int := (binaryLength v.significand : Int) - 1 + v.exponent
    let e : Int := if top ≥ -126 then top - 23 else -149
    ofScaled v.negative (roundHalfEven v.significand (v.exponent - e)) e

/-- The bit pattern of the binary32 value nearest to a float. -/
def nearestBits (x : Float) : UInt32 := (ofBinary64 (Binary64.ofFloat x)).toBits

end Binary32

end ServoDrive
