/-!
# Decimal numbers

A number with a fraction or an exponent is kept as the nearest binary floating point number with
53 bits of significand, the one that every machine calls *double precision*. Here it is a sign, a
significand and a power of two, so that reading, rounding and writing are exact arithmetic on
natural numbers.

* `Decimal.ofRatio?` rounds a quotient to the nearest such number, a half going to the even
  significand, and fails where the nearest number would be infinite;
* `Decimal.ofScientific?` does so for a whole number times a power of ten.

Significands are kept in one form only: between `2 ^ 52` and `2 ^ 53`, or smaller at the least
exponent, and zero with the exponent zero. Equal numbers with the same sign are therefore equal
as values of the type.
-/

namespace Balancer

/-- **A decimal number**: `significand * 2 ^ exponent`, negated where `negative` says so. Zero has
a sign too. -/
structure Decimal where
  negative : Bool
  significand : Nat
  exponent : Int
deriving DecidableEq, Repr

namespace Decimal

/-- The least exponent of two a decimal number can have. -/
def minExponent : Int := -1074

/-- The greatest exponent of two a decimal number can have. -/
def maxExponent : Int := 971

/-- The decimal number zero, with its sign. -/
def zero (negative : Bool) : Decimal := ⟨negative, 0, 0⟩

/-! ### Rounding a quotient -/

/-- The quotient rounded to the nearest whole number, a half to the even one. -/
def roundEven (num den : Nat) : Nat :=
  let quotient := num / den
  let rest := num % den
  if 2 * rest < den then quotient
  else if den < 2 * rest then quotient + 1
  else if quotient % 2 = 0 then quotient else quotient + 1

/-- The quotient `num / den` scaled by `2 ^ (-exponent)`, as a new quotient. -/
def scaled (num den : Nat) (exponent : Int) : Nat × Nat :=
  if exponent < 0 then (num * Nat.pow 2 (-exponent).toNat, den)
  else (num, den * Nat.pow 2 exponent.toNat)

/-- The exponent at which the quotient has 53 bits before the point, or the least one. -/
def exponentFor (num den : Nat) : Int :=
  let guess : Int := (num.log2 : Int) - (den.log2 : Int) - 52
  let (n, d) := scaled num den guess
  max minExponent (if n / d < Nat.pow 2 52 then guess - 1 else guess)

/-- The decimal number nearest to `num / den`, or `none` where that is infinite. -/
def ofRatio? (negative : Bool) (num den : Nat) : Option Decimal :=
  if num = 0 then some (zero negative)
  else
    let exponent := exponentFor num den
    let (n, d) := scaled num den exponent
    let significand := roundEven n d
    if significand = 0 then some (zero negative)
    else
      -- Rounding up may carry into a 54th bit; the number is then the next power of two.
      let (significand, exponent) :=
        if significand = Nat.pow 2 53 then (Nat.pow 2 52, exponent + 1) else (significand, exponent)
      if maxExponent < exponent then none else some ⟨negative, significand, exponent⟩

/-- The decimal number nearest to a whole number. Whole numbers here have at most 64 bits, so the
nearest number is always finite. -/
def ofNat (negative : Bool) (n : Nat) : Decimal :=
  (ofRatio? negative n 1).getD (zero negative)

/-- The decimal number nearest to `mantissa * 10 ^ exponent`, or `none` where that is infinite.
Exponents far outside the range are answered without computing the power. -/
def ofScientific? (negative : Bool) (mantissa : Nat) (exponent : Int) : Option Decimal :=
  if mantissa = 0 then some (zero negative)
  else if 400 < exponent then none
  else if exponent < 0 then
    -- `mantissa < 2 ^ (log2 mantissa + 1)`, which is below `10 ^ (log2 mantissa + 1)`.
    if exponent + (mantissa.log2 + 1 : Nat) < -400 then some (zero negative)
    else ofRatio? negative mantissa (Nat.pow 10 (-exponent).toNat)
  else ofRatio? negative (mantissa * Nat.pow 10 exponent.toNat) 1

/-! ### The exact value -/

/-- The magnitude as an exact quotient. -/
def ratio (d : Decimal) : Nat × Nat :=
  if d.exponent < 0 then (d.significand, Nat.pow 2 (-d.exponent).toNat)
  else (d.significand * Nat.pow 2 d.exponent.toNat, 1)

/-- The magnitude where it is a whole number. -/
def whole? (d : Decimal) : Option Nat :=
  let (num, den) := d.ratio
  if num % den = 0 then some (num / den) else none

end Decimal

end Balancer
