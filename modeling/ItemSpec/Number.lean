import ItemSpec.Fault
set_option autoImplicit false

/-! The numbers that a spec can hold: decimal integers of 32 bits, with an optional sign and any
leading zeros. A token of another form, or out of range, is no number; that is not a fault. The one
fault is a numeral of more digits than the reader takes. -/

namespace ItemSpec.Number

def least : Int := -2147483648

def greatest : Int := 2147483647

def significantDigits : Nat := 10

/-- A token as a sign and a run of digits, at least one; `true` is the sign of a negative number. -/
def parts? (token : Text) : Option (Bool × Text) :=
  let (negative, digits) := match token with
    | '-' :: rest => (true, rest)
    | '+' :: rest => (false, rest)
    | rest => (false, rest)
  if digits ≠ [] ∧ digits.all Decimal.isDigit then some (negative, digits) else none

def signed (negative : Bool) (digits : Text) : Int :=
  if negative then -(Decimal.value digits : Int) else Decimal.value digits

/-- The number that a token denotes, if it denotes one. The numeral is measured without its leading
zeros first, and then with them. -/
def read (token : Text) : Except Fault (Option Int) :=
  match parts? token with
  | none => .ok none
  | some (negative, digits) =>
    if significantDigits < (digits.dropWhile (· == '0')).length then .ok none
    else if Fault.digitCapacity < digits.length then .error (.digitLimit digits.length)
    else
      let number := signed negative digits
      if least ≤ number ∧ number ≤ greatest then .ok (some number) else .ok none

end ItemSpec.Number
