import KotlinAssist.Number.Double

/-!
# Shortest decimals

The text of a floating-point number has the fewest digits that are read back as that number and, of
the texts with so many digits, the nearest.  A size `mantissa * 2 ^ exponent` is read back from all
that lies between the middles to its two neighbours; the middles themselves belong to it when its
mantissa is even.

Sizes are compared exactly: four times the mantissa, the middles and the powers of two are integers
times one power of ten, because a negative power of two is a power of five over a power of ten.

## Main definitions

* `Decimal` — digits and a power of ten
* `Double.shortest` — the shortest decimal of a size
* `Decimal.text` — how it is written
-/

namespace KotlinAssist

/-- The size `digits * 10 ^ power`. -/
structure Decimal where
  digits : Nat
  power : Int
  deriving DecidableEq

namespace Decimal

/-- A decimal without the zeros at the end of its digits; `places` bounds their number. -/
def withoutZeros (decimal : Decimal) : Nat → Decimal
  | 0 => decimal
  | places + 1 =>
    if decimal.digits ≠ 0 ∧ decimal.digits % 10 = 0 then
      withoutZeros ⟨decimal.digits / 10, decimal.power + 1⟩ places
    else decimal

end Decimal

namespace Double

/-- What is read back as a size, in units of a common power of ten. -/
structure Interval where
  low : Nat
  value : Nat
  high : Nat
  /-- Whether the ends belong to it. -/
  closed : Bool
  /-- The power of ten. -/
  power : Int

namespace Interval

/-- Whether a number of units lies in an interval. -/
def has (interval : Interval) (units : Nat) : Bool :=
  if interval.closed then interval.low ≤ units && units ≤ interval.high
  else interval.low < units && units < interval.high

/-- The decimal nearest to the value of an interval among those that lie in it and leave out a
number of its digits. -/
def leavingOut? (interval : Interval) (places : Nat) : Option Decimal :=
  let unit := Nat.pow 10 places
  let below := interval.value / unit
  let toBelow := interval.value - below * unit
  let toAbove := (below + 1) * unit - interval.value
  let down := interval.has (below * unit)
  let up := interval.has ((below + 1) * unit)
  let upIsNearer := toAbove < toBelow ∨ (toAbove = toBelow ∧ below % 2 = 1)
  if up ∧ (!down ∨ upIsNearer) then some ⟨below + 1, interval.power + places⟩
  else if down then some ⟨below, interval.power + places⟩
  else none

end Interval

/-- What is read back as a size.  The neighbour below a power of two is only half as far away. -/
def interval (size : Double) : Interval :=
  let exponent := size.exponent - 2
  let unit := if 0 ≤ exponent then Nat.pow 2 exponent.toNat else Nat.pow 5 exponent.natAbs
  let gap := if 2 * size.mantissa = mantissaLimit ∧ minExponent < size.exponent then 1 else 2
  { low := (4 * size.mantissa - gap) * unit
    value := 4 * size.mantissa * unit
    high := (4 * size.mantissa + 2) * unit
    closed := size.mantissa % 2 = 0
    power := min exponent 0 }

/-- The shortest decimal that is read back as a size. -/
def shortest (size : Double) : Decimal :=
  let interval := size.interval
  let count := (Nat.toDigits 10 interval.value).length
  let found := (List.range count).findSome? fun kept => interval.leavingOut? (count - 1 - kept)
  (found.getD ⟨0, 0⟩).withoutZeros count

end Double

namespace Decimal

/-- The number of places before the point up to which a number is written without an exponent. -/
def maxPlaces : Int :=
  16

/-- The number of zeros after the point up to which a number is written without an exponent. -/
def maxZeros : Int :=
  4

/-- A decimal as text, with digits on both sides of the point, or with one digit before it and an
exponent when it is very large or very small. -/
def text (decimal : Decimal) : String :=
  let digits := Nat.toDigits 10 decimal.digits
  let point : Int := digits.length + decimal.power
  let zeros := fun count : Int => List.replicate count.toNat '0'
  if 0 ≤ decimal.power ∧ point ≤ maxPlaces then
    String.ofList (digits ++ zeros decimal.power ++ ['.', '0'])
  else if 0 < point ∧ point ≤ maxPlaces then
    String.ofList (digits.take point.toNat ++ '.' :: digits.drop point.toNat)
  else if -maxZeros ≤ point ∧ point ≤ 0 then
    String.ofList ('0' :: '.' :: zeros (-point) ++ digits)
  else
    let fraction := if digits.tail.isEmpty then [] else '.' :: digits.tail
    String.ofList (digits.take 1 ++ fraction) ++ s!"e{point - 1}"

end Decimal

namespace Double

/-- A size as text. -/
def text (size : Double) : String :=
  if size.mantissa = 0 then "0.0" else size.shortest.text

/-- A size with its sign as text. -/
def signedText (size : Double) (negative : Bool) : String :=
  (if negative then "-" else "") ++ size.text

end Double

end KotlinAssist
