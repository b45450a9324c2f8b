import ItemSpec.Modifier.Rule
import ItemSpec.Number
set_option autoImplicit false

/-! `custom-model-data:7`: the stack has this model data. Of several tokens the last with a number
counts. -/

namespace ItemSpec.Modifier.ModelData

def opening : Text := "custom-model-data:".toList

/-- The text behind the opening. Whether the token has the opening is seen in lower case, and the text
is taken from the token as it is written. -/
def written? (token : Text) : Option Text :=
  if opening.isPrefixOf (Text.lower token) then some (token.drop opening.length) else none

/-- The number that the tokens ask for, if they ask for another than the one already asked for. -/
def collect : List Text → Option Int → Traced (Option Int)
  | [], wanted => pure wanted
  | token :: others, wanted =>
    match written? token with
    | none => collect others wanted
    | some written => do
      let number? ← Traced.lift (Number.read written)
      collect others (number?.or wanted)

def rule : Rule Int where
  name := "CustomModelDataArgParser".toList
  part := .customModelData
  request tokens := collect tokens none
  write number data := { data with customModelData := some number }
  holds number data := decide (data.customModelData = some number)

end ItemSpec.Modifier.ModelData
