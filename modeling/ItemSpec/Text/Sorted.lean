import ItemSpec.Text.Basic
set_option autoImplicit false

/-! Texts in the order of their code points. -/

namespace ItemSpec.Text

def insertSorted (text : Text) : List Text → List Text
  | [] => [text]
  | head :: rest => if head < text then head :: insertSorted text rest else text :: head :: rest

def sort (texts : List Text) : List Text :=
  texts.foldr insertSorted []

end ItemSpec.Text
