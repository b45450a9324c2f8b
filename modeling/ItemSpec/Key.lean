import ItemSpec.Text.Case
set_option autoImplicit false

/-! Keys of custom items: a scope and a name inside it, written with a colon between them. Keys that
are read from text are in lower case; a key that a host builds itself is taken as it is. -/

namespace ItemSpec

structure Key where
  scope : Text
  name : Text
deriving DecidableEq

namespace Key

def of (scope name : Text) : Key :=
  ⟨Text.lower scope, Text.lower name⟩

def text (key : Key) : Text :=
  key.scope ++ ':' :: key.name

/-- Reads `scope:name`: exactly two parts, neither of them empty. -/
def parse? (written : Text) : Option Key :=
  match Text.cut ':' written with
  | [scope, name] => if scope = [] ∨ name = [] then none else some (of scope name)
  | _ => none

end Key

end ItemSpec
