/-
Double-precision numbers as exact objects.

A double is kept as its 64 bits, so that equality is decidable and no step depends on the
machine's floating point unit.  Every operation is exact arithmetic on ratios of natural
numbers followed by one rounding to nearest, ties to even (`ofRatio`).
-/
namespace SwaggerClient

/-- A binary64 number, by its bits: sign, eleven bits of exponent, 52 bits of fraction. -/
structure Double where
  bits : UInt64
deriving DecidableEq, Repr, Inhabited

namespace Double

/-! ### Taking a double apart -/

/-- The weight of the sign bit. -/
def signUnit : Nat := 1 <<< 63

/-- The weight of the lowest bit of the exponent. -/
def exponentUnit : Nat := 1 <<< 52

/-- The bits without the sign. -/
def magnitude (x : Double) : Nat := x.bits.toNat % signUnit

/-- Whether the sign bit is set. -/
def isNegative (x : Double) : Bool := signUnit ≤ x.bits.toNat

/-- The magnitude of infinity; finite numbers lie below it and NaNs above. -/
def infinityMagnitude : Nat := 0x7FF * exponentUnit

/-- Whether the number is neither infinite nor a NaN. -/
def isFinite (x : Double) : Bool := x.magnitude < infinityMagnitude

/-- A finite number is `significand * 2 ^ exponent`. -/
def significand (x : Double) : Nat :=
  if x.magnitude < exponentUnit then x.magnitude else x.magnitude % exponentUnit + exponentUnit

/-- The exponent that belongs to `significand`. -/
def exponent (x : Double) : Int :=
  if x.magnitude < exponentUnit then -1074 else (x.magnitude / exponentUnit : Nat) - 1075

/-- The absolute value of a finite number as numerator and denominator. -/
def ratio (x : Double) : Nat × Nat :=
  if x.exponent < 0 then (x.significand, 1 <<< (-x.exponent).toNat)
  else (x.significand <<< x.exponent.toNat, 1)

/-! ### Rounding -/

/-- A double from its sign and the remaining 63 bits. -/
def ofMagnitude (negative : Bool) (magnitude : Nat) : Double :=
  ⟨UInt64.ofNat (magnitude + if negative then signUnit else 0)⟩

/-- The quotient rounded to the nearest natural number, ties to even. -/
def roundQuotient (num den : Nat) : Nat :=
  let floor := num / den
  let twice := 2 * (num % den)
  if twice < den then floor
  else if den < twice then floor + 1
  else floor + floor % 2

/-- The exponent `e` with `2 ^ e ≤ num / den < 2 ^ (e + 1)`. -/
def binaryExponent (num den : Nat) : Int :=
  let guess : Int := num.log2 - den.log2
  let reached :=
    if guess < 0 then den ≤ num <<< (-guess).toNat else den <<< guess.toNat ≤ num
  if reached then guess else guess - 1

/-- The double nearest to `num / den`, ties to even; infinity where the range ends.
With `unit` the exponent of the last place, the bits are the rounded significand placed on
top of the exponent, and a significand that rounds up to the next power of two carries into
the exponent by itself. -/
def ofRatio (negative : Bool) (num den : Nat) : Double :=
  if num = 0 then ofMagnitude negative 0
  else
    let unit := max (binaryExponent num den - 52) (-1074)
    let rounded :=
      if unit < 0 then roundQuotient (num <<< (-unit).toNat) den
      else roundQuotient num (den <<< unit.toNat)
    ofMagnitude negative (min ((unit + 1074).toNat * exponentUnit + rounded) infinityMagnitude)

/-- The nearest double of a natural number. -/
def ofNat (negative : Bool) (n : Nat) : Double := ofRatio negative n 1

/-- The nearest double of a power of ten. -/
def tenPower (n : Nat) : Double := ofNat false (Nat.pow 10 n)

/-- The rounded product of two finite numbers. -/
def mul (x y : Double) : Double :=
  ofRatio (x.isNegative != y.isNegative) (x.ratio.1 * y.ratio.1) (x.ratio.2 * y.ratio.2)

/-- The rounded quotient of two finite numbers, the second not zero. -/
def div (x y : Double) : Double :=
  ofRatio (x.isNegative != y.isNegative) (x.ratio.1 * y.ratio.2) (x.ratio.2 * y.ratio.1)

/-- The nearest double of `digits * 10 ^ exponent`.  Far outside the range the answer is
known without computing the power. -/
def ofDecimal (negative : Bool) (digits : Nat) (exponent : Int) : Double :=
  let size : Int := exponent + (Nat.toDigits 10 digits).length
  if digits = 0 ∨ size < -400 then ofMagnitude negative 0
  else if 400 < size then ofMagnitude negative infinityMagnitude
  else if exponent < 0 then ofRatio negative digits (Nat.pow 10 (-exponent).toNat)
  else ofRatio negative (digits * Nat.pow 10 exponent.toNat) 1

end Double

end SwaggerClient
