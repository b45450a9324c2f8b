import ItemSpec.Item.Catalog
import ItemSpec.Json
import ItemSpec.Service.Numeral
set_option autoImplicit false

/-! Validation of JSON values. A check gives a value or all the problems that it found, in order, each
with the place where it was found. Numbers and truth values may be written in several ways; texts and
names may not. -/

namespace ItemSpec

inductive Step where
  | field (name : Text)
  | index (position : Nat)

inductive Defect where
  | missing
  | notObject
  | notText
  | emptyText
  | notInteger
  | fractional
  | unreadableInteger
  | oversizedInteger
  | notTruth
  | unreadableTruth
  | unlisted (values : List Text)
  | notList
  | notMap

namespace Defect

def code : Defect → Text
  | .missing => "missing".toList
  | .notObject => "model_attributes_type".toList
  | .notText => "string_type".toList
  | .emptyText => "string_too_short".toList
  | .notInteger => "int_type".toList
  | .fractional => "int_from_float".toList
  | .unreadableInteger => "int_parsing".toList
  | .oversizedInteger => "int_parsing_size".toList
  | .notTruth => "bool_type".toList
  | .unreadableTruth => "bool_parsing".toList
  | .unlisted _ => "enum".toList
  | .notList => "list_type".toList
  | .notMap => "dict_type".toList

private def mark : Text := [Char.ofNat 0x27]

def choices (values : List Text) : Text :=
  let marked := values.map fun value => mark ++ value ++ mark
  match marked.reverse with
  | [] => []
  | [only] => only
  | last :: earlier => Text.join [',', ' '] earlier.reverse ++ " or ".toList ++ last

def message : Defect → Text
  | .missing => "Field required".toList
  | .notObject =>
    "Input should be a valid dictionary or object to extract fields from".toList
  | .notText => "Input should be a valid string".toList
  | .emptyText => "String should have at least 1 character".toList
  | .notInteger => "Input should be a valid integer".toList
  | .fractional => "Input should be a valid integer, got a number with a fractional part".toList
  | .unreadableInteger =>
    "Input should be a valid integer, unable to parse string as an integer".toList
  | .oversizedInteger =>
    "Unable to parse input string as an integer, exceeded maximum size".toList
  | .notTruth => "Input should be a valid boolean".toList
  | .unreadableTruth => "Input should be a valid boolean, unable to interpret input".toList
  | .unlisted values => "Input should be ".toList ++ choices values
  | .notList => "Input should be a valid list".toList
  | .notMap => "Input should be a valid dictionary".toList

end Defect

structure Problem where
  place : List Step
  defect : Defect

/-- A value, or all the problems that stand in its way. -/
inductive Checked (Value : Type) where
  | sound (value : Value)
  | faulty (problems : List Problem)

namespace Checked

variable {Value Other Result : Type}

/-- Two checks together: the problems of both, those of the first in front. -/
def combine (join : Value → Other → Result) : Checked Value → Checked Other → Checked Result
  | .sound value, .sound other => .sound (join value other)
  | .sound _, .faulty problems => .faulty problems
  | .faulty problems, .sound _ => .faulty problems
  | .faulty problems, .faulty others => .faulty (problems ++ others)

instance : Applicative Checked where
  pure := .sound
  seq functions values := combine (fun function value => function value) functions (values ())

def refuse (place : List Step) (defect : Defect) : Checked Value :=
  .faulty [⟨place, defect⟩]

def settle (place : List Step) : Except Defect Value → Checked Value
  | .ok value => .sound value
  | .error defect => refuse place defect

def all : List (Checked Value) → Checked (List Value)
  | [] => .sound []
  | check :: others => combine List.cons check (all others)

end Checked

abbrev Check (Value : Type) := List Step → Json → Checked Value

namespace Check

variable {Value : Type}

def text : Check Text
  | _, .text value => .sound value
  | place, _ => .refuse place .notText

def someText : Check Text
  | place, .text [] => .refuse place .emptyText
  | place, value => text place value

/-- A fraction denotes an integer only if it is nearer to zero than this, and an integer beyond it is not
even looked at as a truth value. -/
def wordLimit : Nat := 9223372036854775808

def readFraction (fraction : Fraction) : Except Defect Int :=
  match fraction.whole? with
  | none => .error .fractional
  | some number => if number.natAbs < wordLimit then .ok number else .error .oversizedInteger

def readInteger (written : Text) : Except Defect Int :=
  match Numeral.read written with
  | .number value => .ok value
  | .oversized => .error .oversizedInteger
  | .unreadable => .error .unreadableInteger

/-- An integer, or a truth value, fraction or text that denotes one. -/
def integer : Check Int
  | _, .integer value => .sound value
  | _, .bool value => .sound (if value then 1 else 0)
  | place, .fraction value => .settle place (readFraction value)
  | place, .text written => .settle place (readInteger written)
  | place, _ => .refuse place .notInteger

def truthWords : List (Text × Bool) :=
  ["1", "true", "t", "yes", "y", "on"].map (fun word => (word.toList, true)) ++
    ["0", "false", "f", "no", "n", "off"].map (fun word => (word.toList, false))

def wordTruth? (written : Text) : Option Bool :=
  truthWords.lookup (written.map Char.toLower)

def numberTruth? (number : Int) : Option Bool :=
  if number = 1 then some true else if number = 0 then some false else none

def readTruth : Json → Except Defect Bool
  | .bool value => .ok value
  | .integer number =>
    if -wordLimit ≤ number ∧ number < wordLimit then interpret (numberTruth? number)
    else .error .notTruth
  | .fraction value =>
    match readFraction value with
    | .ok number => interpret (numberTruth? number)
    | .error _ => .error .notTruth
  | .text written => interpret (wordTruth? written)
  | _ => .error .notTruth
where
  interpret : Option Bool → Except Defect Bool
    | some value => .ok value
    | none => .error .unreadableTruth

def truth : Check Bool := fun place value => .settle place (readTruth value)

def listed (ofName? : Text → Option Value) (names : List Text) : Check Value
  | place, .text name =>
    match ofName? name with
    | some value => .sound value
    | none => .refuse place (.unlisted names)
  | place, _ => .refuse place (.unlisted names)

def enchantment : Check Enchantment :=
  listed Enchantment.ofName? (Enchantment.all.map Enchantment.name)

def itemFlag : Check ItemFlag :=
  listed ItemFlag.ofName? (ItemFlag.all.map ItemFlag.name)

def policy : Check StackPolicy :=
  listed StackPolicy.ofName? (StackPolicy.all.map StackPolicy.name)

def list (check : Check Value) : Check (List Value)
  | place, .array values =>
    .all (values.zipIdx.map fun (value, position) => check (place ++ [.index position]) value)
  | place, _ => .refuse place .notList

/-- The step to the key of an entry, as against its value. -/
def keyStep : Step := .field "[key]".toList

def map {Key : Type} (key : Check Key) (value : Check Value) : Check (List (Key × Value))
  | place, .object members =>
    .all (members.map fun (name, member) =>
      let entry := place ++ [.field name]
      .combine Prod.mk (key (entry ++ [keyStep]) (.text name)) (value entry member))
  | place, _ => .refuse place .notMap

def optional (check : Check Value) : Check (Option Value)
  | _, .null => .sound none
  | place, value => some <$> check place value

def required (name : String) (check : Check Value) : Check Value := fun place object =>
  let member := place ++ [.field name.toList]
  match object.member? name.toList with
  | some value => check member value
  | none => .refuse member .missing

def withDefault (name : String) (default : Value) (check : Check Value) : Check Value :=
  fun place object =>
    match object.member? name.toList with
    | some value => check (place ++ [.field name.toList]) value
    | none => .sound default

def object (members : Check Value) : Check Value
  | place, .object values => members place (.object values)
  | place, _ => .refuse place .notObject

end Check

end ItemSpec
