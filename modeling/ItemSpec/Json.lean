import ItemSpec.Fraction
import ItemSpec.Text.Quoted
set_option autoImplicit false

/-! JSON values. The members of an object keep their order, in which errors are reported, and a number
with a fraction part or an exponent stays apart from an integer. -/

namespace ItemSpec

inductive Json where
  | null
  | bool (value : Bool)
  | integer (value : Int)
  | fraction (value : Fraction)
  | text (value : Text)
  | array (values : List Json)
  | object (members : List (Text × Json))

namespace Json

/-- The member of an object, or of its members so named the last. -/
def member? (name : Text) : Json → Option Json
  | .object members => members.reverse.lookup name
  | _ => none

def kind : Json → Text
  | .null => "NoneType".toList
  | .bool _ => "bool".toList
  | .integer _ => "int".toList
  | .fraction _ => "float".toList
  | .text _ => "str".toList
  | .array _ => "list".toList
  | .object _ => "dict".toList

mutual

def written : Json → Text
  | .null => "None".toList
  | .bool true => "True".toList
  | .bool false => "False".toList
  | .integer value => Decimal.render value
  | .fraction value => value.written
  | .text value => Text.quote value
  | .array values => '[' :: Text.join [',', ' '] (writtenEach values) ++ [']']
  | .object members => '\x7b' :: Text.join [',', ' '] (writtenMembers members) ++ ['\x7d']

def writtenEach : List Json → List Text
  | [] => []
  | value :: others => written value :: writtenEach others

def writtenMembers : List (Text × Json) → List Text
  | [] => []
  | (name, value) :: others =>
    (Text.quote name ++ ':' :: ' ' :: written value) :: writtenMembers others

end

end Json

end ItemSpec
