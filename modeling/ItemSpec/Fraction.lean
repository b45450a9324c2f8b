import ItemSpec.Text.Basic
import ItemSpec.Text.Decimal
set_option autoImplicit false

/-! Decimal fractions: the numbers that are not written as integers. A fraction stands for a number of
at most 53 significant binary digits and holds the fewest decimal digits that single that number out.
So a fraction with a nonzero place is no integer, and a whole one of more digits than are kept stands
for the integer next to it that keeps to them. -/

namespace ItemSpec

/-- The number `digits` divided by ten to the power of `places`, with a sign, which zero has too. -/
structure Fraction where
  negative : Bool
  digits : Nat
  places : Nat

namespace Fraction

/-! ### The number that a fraction stands for -/

/-- The significant binary digits of a floating-point number of 64 bits. -/
def precision : Nat := 53

/-- The multiple of a unit that is nearest to a number; of two equally near ones the even multiple. -/
def nearestMultiple (unit number : Nat) : Nat :=
  let below := number / unit
  let rest := 2 * (number % unit)
  if unit < rest ∨ rest = unit ∧ below % 2 = 1 then (below + 1) * unit else below * unit

def kept (number : Nat) : Nat :=
  nearestMultiple (Nat.pow 2 (number.log2 + 1 - precision)) number

def whole? (fraction : Fraction) : Option Int :=
  let unit := Nat.pow 10 fraction.places
  if fraction.digits % unit = 0 then
    let magnitude : Int := kept (fraction.digits / unit)
    some (if fraction.negative then -magnitude else magnitude)
  else none

/-! ### Its notation -/

def writtenExponent (exponent : Int) : Text :=
  let digits := Decimal.digits exponent.natAbs
  (if exponent < 0 then '-' else '+') :: (List.replicate (2 - digits.length) '0' ++ digits)

def positional (digits : Text) (point : Int) : Text :=
  if point ≤ 0 then '0' :: '.' :: (List.replicate point.natAbs '0' ++ digits)
  else
    let whole := digits.take point.natAbs
    let rest := digits.drop point.natAbs
    whole ++ List.replicate (point.natAbs - whole.length) '0' ++
      '.' :: (if rest = [] then ['0'] else rest)

def scientific (digits : Text) (exponent : Int) : Text :=
  let fraction := digits.drop 1
  digits.take 1 ++ (if fraction = [] then [] else '.' :: fraction) ++ 'e' :: writtenExponent exponent

/-- The notation of a fraction: positional from a ten thousandth on to sixteen digits in front of the
point, and with an exponent beyond. -/
def written (fraction : Fraction) : Text :=
  let numeral := Decimal.digits fraction.digits
  let digits := Text.dropTrailing '0' numeral
  let point : Int := numeral.length - fraction.places
  let magnitude :=
    if fraction.digits = 0 then ['0', '.', '0']
    else if -4 < point ∧ point ≤ 16 then positional digits point
    else scientific digits (point - 1)
  if fraction.negative then '-' :: magnitude else magnitude

end Fraction

end ItemSpec
