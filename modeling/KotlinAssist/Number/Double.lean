/-!
# Binary floating point

The numbers of a message that are no integers are kept with 53 binary digits.  A `Double` is the
size of such a number, `mantissa * 2 ^ exponent`; the sign is kept apart, so that zero has one too.

Every operation is exact arithmetic on natural numbers followed by one rounding: `Double.nearest`
takes the number of 53 digits nearest to a ratio and, of two that are equally near, the one whose
mantissa is even.  Below the least normal number the exponent stays, and digits are lost instead.

## Main definitions

* `Double` — a size
* `Double.nearest` — rounds a ratio
* `Double.ofDecimal?` — digits times a power of ten
-/

namespace KotlinAssist

/-- The size `mantissa * 2 ^ exponent`. -/
structure Double where
  mantissa : Nat
  exponent : Int
  deriving DecidableEq

namespace Double

/-- One more than the largest mantissa. -/
def mantissaLimit : Nat :=
  0x20000000000000

/-- The least exponent. -/
def minExponent : Int :=
  -1074

/-- The largest exponent of a mantissa of full length. -/
def maxExponent : Int :=
  971

/-- Nothing at all. -/
def zero : Double :=
  ⟨0, minExponent⟩

/-- A ratio divided by a power of two, as numerator and denominator. -/
def shifted (numerator denominator : Nat) (exponent : Int) : Nat × Nat :=
  if 0 ≤ exponent then (numerator, denominator * Nat.pow 2 exponent.toNat)
  else (numerator * Nat.pow 2 exponent.natAbs, denominator)

/-- The quotient of two numbers rounded to the nearest, a half to the even neighbour. -/
def roundedQuotient (numerator denominator : Nat) : Nat :=
  let quotient := numerator / denominator
  let twice := 2 * (numerator % denominator)
  if denominator < twice ∨ (twice = denominator ∧ quotient % 2 = 1) then quotient + 1
  else quotient

/-- The exponent at which the quotient of a ratio has 53 binary digits, or the least exponent. -/
def exponentOf (numerator denominator : Nat) : Int :=
  let exponent : Int := (Nat.log2 numerator : Int) - (Nat.log2 denominator : Int) - 52
  let (above, below) := shifted numerator denominator exponent
  max minExponent (if 2 * above < mantissaLimit * below then exponent - 1 else exponent)

/-- The size nearest to a ratio, a tie going to the even mantissa. -/
def nearest (numerator denominator : Nat) : Double :=
  if numerator = 0 then zero
  else
    let exponent := exponentOf numerator denominator
    let (above, below) := shifted numerator denominator exponent
    let mantissa := roundedQuotient above below
    if mantissa = mantissaLimit then ⟨mantissa / 2, exponent + 1⟩ else ⟨mantissa, exponent⟩

/-- Whether a size is one of the finite numbers. -/
def isFinite (size : Double) : Bool :=
  size.exponent ≤ maxExponent

/-- The product of two sizes, rounded. -/
def times (left right : Double) : Double :=
  let (denominator, numerator) :=
    shifted 1 (left.mantissa * right.mantissa) (left.exponent + right.exponent)
  nearest numerator denominator

/-- The quotient of two sizes, rounded. -/
def dividedBy (left right : Double) : Double :=
  let (denominator, numerator) :=
    shifted right.mantissa left.mantissa (left.exponent - right.exponent)
  nearest numerator denominator

/-- The size nearest to a power of ten. -/
def tenTo (power : Nat) : Double :=
  nearest (Nat.pow 10 power) 1

/-- The largest power of ten that is a finite number. -/
def maxTenPower : Nat :=
  308

/-- A size divided by a power of ten, in steps whose divisors are finite. -/
def dividedByTenTo (size : Double) (power : Nat) : Double :=
  if power ≤ maxTenPower then size.dividedBy (tenTo power)
  else if size.mantissa = 0 then size
  else (size.dividedBy (tenTo maxTenPower)).dividedByTenTo (power - maxTenPower)
termination_by power
decreasing_by
  simp only [maxTenPower] at *
  omega

/-- Digits times a power of ten.  The digits and the power are rounded before they are brought
together.  Nothing is returned for a number that is too large. -/
def ofDecimal? (digits : Nat) (power : Int) : Option Double :=
  let size := nearest digits 1
  if power < 0 then some (size.dividedByTenTo power.natAbs)
  else if size.mantissa = 0 then some size
  else if (maxTenPower : Int) < power then none
  else
    let product := size.times (tenTo power.toNat)
    if product.isFinite then some product else none

end Double

end KotlinAssist
