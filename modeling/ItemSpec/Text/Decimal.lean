import ItemSpec.Text.Basic
set_option autoImplicit false

/-! Decimal numerals over the ASCII digits: reading a run of digits as a number and writing a number
with the fewest digits. -/

namespace ItemSpec.Decimal

/-- One of the ten ASCII digits; digits of other scripts are not. -/
def isDigit (letter : Char) : Bool :=
  48 ≤ letter.toNat && letter.toNat ≤ 57

def value (digits : Text) : Nat :=
  digits.foldl (fun total digit => 10 * total + (digit.toNat - 48)) 0

def digits (number : Nat) : Text :=
  if number < 10 then [Char.ofNat (48 + number)]
  else digits (number / 10) ++ [Char.ofNat (48 + number % 10)]

def render : Int → Text
  | .ofNat number => digits number
  | .negSucc number => '-' :: digits (number + 1)

end ItemSpec.Decimal
