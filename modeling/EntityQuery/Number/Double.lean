/-!
# Double precision numbers

The numbers of the 64-bit binary interchange format, kept as their bits, so that
equality of values is equality of bits. Every operation is exact arithmetic on
natural numbers followed by at most one rounding to the nearest double, where a
tie goes to the even significand.

## Main definitions

- `Double` — a number of the format, given by its bits
- `Double.significand`, `Double.exponent` — a finite magnitude as `m * 2 ^ q`
- `Double.ofRatio` — the double nearest to a signed ratio of natural numbers
- `Double.ofInt` — the double nearest to an integer
- `Double.mul`, `Double.div` — product and quotient of finite doubles
- `Double.numericEq` — equality of numbers, for which a NaN equals nothing

## Design notes

Powers are written `Nat.pow`, the operation of the kernel itself, so closed terms
with large powers evaluate quickly and do not depend on a choice of instance.
-/

namespace EntityQuery

/-- The nearest natural number to a ratio; of two nearest ones the even one. -/
def roundHalfEven (num den : Nat) : Nat :=
  let q := num / den
  let r := num % den
  if 2 * r < den then q
  else if den < 2 * r then q + 1
  else q + q % 2

/-- The exponent of the greatest power of two that is at most a ratio of two
  positive numbers. -/
def binaryExponent (num den : Nat) : Int :=
  let k : Int := (num.log2 : Int) - (den.log2 : Int)
  if den * Nat.pow 2 k.toNat ≤ num * Nat.pow 2 (-k).toNat then k else k - 1

/-- A number of the 64-bit binary interchange format. -/
structure Double where
  /-- Sign, exponent field and fraction, from the most significant bit down. -/
  bits : UInt64
deriving DecidableEq, Inhabited

namespace Double

/-- The bits of an infinite magnitude. -/
def infinityMagnitude : Nat :=
  2047 * Nat.pow 2 52

/-- The bits without the sign: finite magnitudes increase with them. -/
def magnitude (x : Double) : Nat :=
  x.bits.toNat % Nat.pow 2 63

/-- Is the sign bit set? -/
def isNegative (x : Double) : Bool :=
  Nat.pow 2 63 ≤ x.bits.toNat

/-- The double with the given sign and the given bits below it. -/
def ofMagnitude (negative : Bool) (magnitude : Nat) : Double :=
  ⟨UInt64.ofNat ((if negative then Nat.pow 2 63 else 0) + magnitude)⟩

/-- Is this a number, and not infinite? -/
def isFinite (x : Double) : Bool :=
  x.magnitude < infinityMagnitude

/-- Is this not a number? -/
def isNaN (x : Double) : Bool :=
  infinityMagnitude < x.magnitude

/-- Is this a zero of either sign? -/
def isZero (x : Double) : Bool :=
  x.magnitude == 0

/-- The exponent field. -/
def exponentField (x : Double) : Nat :=
  x.magnitude / Nat.pow 2 52

/-- The fraction field. -/
def fraction (x : Double) : Nat :=
  x.magnitude % Nat.pow 2 52

/-- The natural number `m` of a finite magnitude `m * 2 ^ q`. -/
def significand (x : Double) : Nat :=
  if x.exponentField = 0 then x.fraction else Nat.pow 2 52 + x.fraction

/-- The exponent `q` of a finite magnitude `m * 2 ^ q`. -/
def exponent (x : Double) : Int :=
  if x.exponentField = 0 then -1074 else (x.exponentField : Int) - 1075

/-- A finite magnitude as a ratio: the numerator. -/
def numerator (x : Double) : Nat :=
  x.significand * Nat.pow 2 x.exponent.toNat

/-- A finite magnitude as a ratio: the denominator, a power of two. -/
def denominator (x : Double) : Nat :=
  Nat.pow 2 (-x.exponent).toNat

/-- Zero, with the given sign. -/
def zero (negative : Bool) : Double :=
  ofMagnitude negative 0

/-- The double nearest to a signed ratio, infinite when the ratio is beyond the
  greatest finite double. The significand is rounded at the exponent that leaves
  53 bits, or at the least exponent of the format; a carry out of the
  significand moves into the exponent field by itself. -/
def ofRatio (negative : Bool) (num den : Nat) : Double :=
  if num = 0 then zero negative
  else
    let q : Int := max (binaryExponent num den - 52) (-1074)
    let m := roundHalfEven (num * Nat.pow 2 (-q).toNat) (den * Nat.pow 2 q.toNat)
    ofMagnitude negative (min ((q + 1074).toNat * Nat.pow 2 52 + m) infinityMagnitude)

/-- The double nearest to a natural number. -/
def ofNat (n : Nat) : Double :=
  ofRatio false n 1

/-- The double nearest to an integer. -/
def ofInt (i : Int) : Double :=
  ofRatio (i < 0) i.natAbs 1

/-- The number with its sign changed. -/
def neg (x : Double) : Double :=
  ofMagnitude (!x.isNegative) x.magnitude

/-- The product of two finite doubles, rounded once. -/
def mul (x y : Double) : Double :=
  ofRatio (x.isNegative != y.isNegative) (x.numerator * y.numerator)
    (x.denominator * y.denominator)

/-- The quotient of two finite doubles, the second not zero, rounded once. -/
def div (x y : Double) : Double :=
  ofRatio (x.isNegative != y.isNegative) (x.numerator * y.denominator)
    (x.denominator * y.numerator)

/-- Equality of numbers: the two zeros are equal and a NaN equals nothing. -/
def numericEq (x y : Double) : Bool :=
  !x.isNaN && !y.isNaN && (x == y || (x.isZero && y.isZero))

/-- The bits of the greatest finite number of the 32-bit format, as a double. -/
def singleMaxMagnitude : Nat :=
  0x47EFFFFFE0000000

/-- The nearest integer to a natural number among those with at most this many
  significant bits; of two nearest ones the one with the even significand. -/
def roundToBits (precision n : Nat) : Nat :=
  let k := n.log2 + 1 - precision
  roundHalfEven n (Nat.pow 2 k) * Nat.pow 2 k

end Double

end EntityQuery
