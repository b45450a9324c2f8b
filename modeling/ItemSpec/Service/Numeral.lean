import ItemSpec.Number
import ItemSpec.Text.Blank
set_option autoImplicit false

/-! Integers in the texts of a request. An integer is written as digits, behind a minus sign if it is
negative. A text of another form is brought to this one, where that can be done: white space around it,
a plus sign, zeros in front, places that are all zero and underscores between letters are dropped. -/

namespace ItemSpec.Numeral

inductive Reading where
  | number (value : Int)
  | oversized
  | unreadable

/-- The text behind a plus sign, or all of it if it has none. A minus sign after a plus sign is refused. -/
def dropPlus? : Text → Option Text
  | '+' :: '-' :: _ => none
  | '+' :: rest => some rest
  | rest => some rest

/-- What follows a run of zeros and underscores that ended with the given letter so far: all from the
next other digit or minus sign on. The last letter of the run is kept in front of a point, and if
nothing follows. -/
def afterZeros? (last : Char) : Text → Option Text
  | [] => some [last]
  | letter :: rest =>
    if letter = '0' ∨ letter = '_' then afterZeros? letter rest
    else if letter = '.' then some (last :: letter :: rest)
    else if Decimal.isDigit letter ∨ letter = '-' then some (letter :: rest)
    else none

def dropZeros? : Text → Option Text
  | [] => none
  | first :: rest =>
    if first = '0' then afterZeros? first rest
    else if Decimal.isDigit first ∨ first = '-' then some (first :: rest)
    else none

def dropPlaces (written : Text) : Text :=
  let whole := written.takeWhile (· != '.')
  let places := (written.drop whole.length).drop 1
  if places ≠ [] ∧ places.all (· == '0') then whole else written

def dropUnderscores (written : Text) : Text :=
  let pieces := Text.cut '_' written
  if pieces.any List.isEmpty then written else pieces.flatten

def plain? (written : Text) : Option Text :=
  (dropPlus? (Text.trim written)).bind fun rest =>
    let headed? := match rest with
      | '-' :: unsigned => (dropZeros? unsigned).map ('-' :: ·)
      | unsigned => dropZeros? unsigned
    headed?.map fun headed => dropUnderscores (dropPlaces headed)

/-- The number of digits behind a minus sign or none. A zero is written as one digit, and any other
number does not start with a zero. Digits are counted first, then what follows them is looked at. -/
def readPlain (written : Text) : Reading :=
  let (negative, unsigned) := match written with
    | '-' :: rest => (true, rest)
    | rest => (false, rest)
  let digits := unsigned.takeWhile Decimal.isDigit
  if digits.head? = some '0' ∧ digits ≠ ['0'] then .unreadable
  else if Fault.digitCapacity < digits.length then .oversized
  else if digits = [] ∨ digits ≠ unsigned then .unreadable
  else .number (Number.signed negative digits)

/-- The integer that a text denotes, as it stands or else in its plain form. Only a text that is too
long as it stands counts as oversized. -/
def read (written : Text) : Reading :=
  match readPlain written with
  | .number value => .number value
  | .oversized => .oversized
  | .unreadable =>
    match (plain? written).map readPlain with
    | some (.number value) => .number value
    | _ => .unreadable

end ItemSpec.Numeral
