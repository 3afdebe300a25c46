import Redial.Number.Binary64
import Redial.Text.Basic

/-!
The shortest decimal text of a floating-point number: the fewest digits that
read back as the same number, of those the nearest to it, written out in full
for moderate exponents.
-/

namespace Redial.Binary64

/-- A decimal `0.d₁d₂… · 10 ^ (exponent + 1)`, so `exponent` is that of
the first digit. -/
structure Decimal where
  digits : List Char
  exponent : Int
  deriving DecidableEq, Repr

/-- The bounds of the reals that round to a positive number, and the number
itself between them, over the common denominator that comes last. Below a
power of two the next value is half as far. -/
def neighbourhood (number : Binary64) : Nat × Nat × Nat × Nat :=
  let lowerGap :=
    if number.significand = Nat.pow 2 (precision - 1) ∧
      minExponent < number.exponent then 1 else 2
  let (unit, denominator) :=
    if 0 ≤ number.exponent then (Nat.pow 2 number.exponent.toNat, 4)
    else (1, 4 * Nat.pow 2 (-number.exponent).toNat)
  (unit * (4 * number.significand - lowerGap),
    unit * (4 * number.significand), unit * (4 * number.significand + 2),
    denominator)

/-- The exponent of the first digit of a positive quotient, found from
above. -/
def leadingExponent (numerator denominator : Nat) : Nat → Int
  | 0 => -324
  | steps + 1 =>
    let exponent : Int := (steps : Int) - 323
    let reached :=
      if 0 ≤ exponent then denominator * Nat.pow 10 exponent.toNat ≤ numerator
      else denominator ≤ numerator * Nat.pow 10 (-exponent).toNat
    if reached then exponent else leadingExponent numerator denominator steps

/-- The decimal with `count` digits that lies in the neighbourhood, the
nearer one of two. -/
def withDigits? (number : Binary64) (leading : Int) (count : Nat) :
    Option Decimal :=
  let (low, exact, high, denominator) := number.neighbourhood
  let step : Int := leading - count + 1
  let (scale, divisor) :=
    if 0 ≤ step then (1, denominator * Nat.pow 10 step.toNat)
    else (Nat.pow 10 (-step).toNat, denominator)
  let below := exact * scale / divisor
  let inside (candidate : Nat) : Bool :=
    if number.significand % 2 = 0 then
      low * scale ≤ candidate * divisor && candidate * divisor ≤ high * scale
    else low * scale < candidate * divisor &&
      candidate * divisor < high * scale
  let chosen? :=
    if inside below && inside (below + 1) then
      let distance := exact * scale - below * divisor
      if 2 * distance < divisor ||
        (2 * distance == divisor && below % 2 == 0) then some below
      else some (below + 1)
    else if inside below then some below
    else if inside (below + 1) then some (below + 1)
    else none
  chosen?.map fun chosen =>
    let digits := Numeral.digits chosen
    ⟨(digits.reverse.dropWhile (· == '0')).reverse, step + digits.length - 1⟩

/-- The shortest decimal of a number. Seventeen digits always suffice. -/
def shortest (number : Binary64) : Decimal :=
  if number.significand = 0 then ⟨['0'], 0⟩
  else
    let (_, exact, _, denominator) := number.neighbourhood
    let leading := leadingExponent exact denominator 633
    ((List.range' 1 17).findSome? (number.withDigits? leading)).getD
      ⟨['0'], 0⟩

/-- A decimal is written out in full while its first digit is worth at least
10⁻⁵ and less than 10¹⁶, always with a point and a digit after it, and with a
signed exponent otherwise. -/
def Decimal.text (decimal : Decimal) : List Char :=
  let count : Int := decimal.digits.length
  if 0 ≤ decimal.exponent ∧ decimal.exponent ≤ 15 then
    let whole := (decimal.exponent + 1).toNat
    if count ≤ decimal.exponent + 1 then
      decimal.digits ++ List.replicate (whole - decimal.digits.length) '0' ++
        ['.', '0']
    else decimal.digits.take whole ++ '.' :: decimal.digits.drop whole
  else if -5 ≤ decimal.exponent ∧ decimal.exponent < 0 then
    '0' :: '.' ::
      (List.replicate (-decimal.exponent - 1).toNat '0' ++ decimal.digits)
  else
    let mantissa :=
      match decimal.digits with
      | [] => ['0']
      | [digit] => [digit]
      | digit :: more => digit :: '.' :: more
    let sign := if decimal.exponent < 0 then '-' else '+'
    mantissa ++ 'e' :: sign :: Numeral.digits decimal.exponent.natAbs

/-- The text of a number, zero with its sign. -/
def text (number : Binary64) : List Char :=
  let magnitude := number.shortest.text
  if number.negative then '-' :: magnitude else magnitude

end Redial.Binary64
