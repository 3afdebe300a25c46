/-!
Finite floating-point numbers with 53 significant bits, as exact dyadic
values. Every operation rounds the exact result once, to the nearest
representable value and to the even one in a tie.
-/

namespace Redial

/-- The number `± significand · 2 ^ exponent`. Built by `Binary64.nearest?`, a
significand has at most 53 bits and an exponent is at least −1074. -/
structure Binary64 where
  negative : Bool
  significand : Nat
  exponent : Int
  deriving DecidableEq, Repr, Inhabited

namespace Binary64

def precision : Nat := 53

/-- The exponent of the smallest positive value. -/
def minExponent : Int := -1074

/-- The exponent from which on a full significand is out of range. -/
def endExponent : Int := 972

def zero : Binary64 := ⟨false, 0, minExponent⟩

/-- The opposite number. Zero keeps its own sign bit, so there are two
zeros. -/
def opposite (number : Binary64) : Binary64 :=
  { number with negative := !number.negative }

/-- The quotient of two naturals to the nearest natural, a tie to the even
one. -/
def roundQuotient (numerator denominator : Nat) : Nat :=
  let quotient := numerator / denominator
  let twice := 2 * (numerator % denominator)
  if denominator < twice then quotient + 1
  else if twice = denominator ∧ quotient % 2 = 1 then quotient + 1
  else quotient

/-- The quotient of two naturals in units of `2 ^ exponent`, as a
quotient of naturals. -/
def inUnits (numerator denominator : Nat) (exponent : Int) : Nat × Nat :=
  if 0 ≤ exponent then (numerator, denominator * Nat.pow 2 exponent.toNat)
  else (numerator * Nat.pow 2 (-exponent).toNat, denominator)

/-- The exponent of the unit in which a positive quotient has just 53 bits, or
the least exponent if that is greater. -/
def unitExponent (numerator denominator : Nat) : Int :=
  let guess : Int := (numerator.log2 : Int) - denominator.log2 - 52
  let (scaled, divisor) := inUnits numerator denominator guess
  max minExponent
    (if scaled < Nat.pow 2 (precision - 1) * divisor then guess - 1
    else guess)

/-- The nearest value to a quotient of naturals, or `none` when it is out of
range. -/
def nearest? (numerator denominator : Nat) : Option Binary64 :=
  if numerator = 0 then some zero
  else
    let exponent := unitExponent numerator denominator
    let (scaled, divisor) := inUnits numerator denominator exponent
    let rounded := roundQuotient scaled divisor
    let (significand, exponent) :=
      if rounded = Nat.pow 2 precision then
        (Nat.pow 2 (precision - 1), exponent + 1)
      else (rounded, exponent)
    if endExponent ≤ exponent then none
    else some ⟨false, significand, exponent⟩

def ratio (number : Binary64) : Nat × Nat :=
  if 0 ≤ number.exponent then
    (number.significand * Nat.pow 2 number.exponent.toNat, 1)
  else (number.significand, Nat.pow 2 (-number.exponent).toNat)

/-- The nearest value to a power of ten with a small exponent. -/
def powerOfTen (exponent : Nat) : Binary64 :=
  (nearest? (Nat.pow 10 exponent) 1).getD zero

/-- The product of two magnitudes, rounded once. -/
def times? (left right : Binary64) : Option Binary64 :=
  let (leftTop, leftBottom) := left.ratio
  let (rightTop, rightBottom) := right.ratio
  nearest? (leftTop * rightTop) (leftBottom * rightBottom)

/-- The quotient of two magnitudes, rounded once. -/
def dividedBy (left right : Binary64) : Binary64 :=
  let (leftTop, leftBottom) := left.ratio
  let (rightTop, rightBottom) := right.ratio
  (nearest? (leftTop * rightBottom) (leftBottom * rightTop)).getD zero

/-- The value of `digits · 10 ^ exponent` the way a reader of number texts
forms it: the digits are rounded first, and each power of ten (up to the
308th) and each product or quotient rounds again. A quotient by two such
powers is zero for all digits of at most 64 bits. -/
def ofDecimal? (digits : Nat) (exponent : Int) : Option Binary64 := do
  let start ← nearest? digits 1
  if 308 < exponent then
    if digits = 0 then some start else none
  else if 0 ≤ exponent then start.times? (powerOfTen exponent.toNat)
  else if -308 ≤ exponent then
    some (start.dividedBy (powerOfTen (-exponent).toNat))
  else if -616 ≤ exponent then
    some ((start.dividedBy (powerOfTen 308)).dividedBy
      (powerOfTen (-exponent - 308).toNat))
  else some zero

end Binary64

end Redial
