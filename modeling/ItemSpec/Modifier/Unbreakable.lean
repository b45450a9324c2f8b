import ItemSpec.Modifier.Rule
set_option autoImplicit false

/-! `unbreakable`: the stack cannot break. -/

namespace ItemSpec.Modifier.Unbreakable

def word : Text := "unbreakable".toList

def rule : Rule Unit where
  name := "UnbreakableArgParser".toList
  part := .unbreakable
  request tokens :=
    pure (if tokens.any fun token => decide (Text.lower token = word) then some () else none)
  write _ data := { data with unbreakable := true }
  holds _ data := data.unbreakable

end ItemSpec.Modifier.Unbreakable
