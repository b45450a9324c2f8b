import ItemSpec.Modifier.Rule
import ItemSpec.Number
set_option autoImplicit false

/-! `sharpness:5`: the stack has the enchantment at this level or a higher one. Of several tokens for
one enchantment the last with a proper level counts. -/

namespace ItemSpec.Modifier.Enchanting

/-- The enchantment that a token names and the text of the level, the token being in lower case. -/
def named? (token : Text) : Option (Enchantment × Text) :=
  match Text.cut ':' (Text.lower token) with
  | [name, level] => (Enchantment.ofName? name).map fun enchantment => (enchantment, level)
  | _ => none

def level? (written : Text) : Except Fault (Option Int) :=
  (Number.read written).map fun number? => number?.filter fun number => decide (1 ≤ number)

/-- The levels that the tokens ask for on top of those already asked for. -/
def collect : List Text → Levels → Traced Levels
  | [], levels => pure levels
  | token :: others, levels =>
    match named? token with
    | none => collect others levels
    | some (enchantment, written) => do
      match ← Traced.lift (level? written) with
      | some level => collect others (levels.set enchantment level)
      | none =>
        Traced.note (.malformedLevel token)
        collect others levels

def rule : Rule Levels where
  name := "EnchantmentArgParser".toList
  part := .enchants
  request tokens := do
    let levels ← collect tokens .empty
    pure (if levels.isEmpty then none else some levels)
  write levels data := { data with enchants := data.enchants.update levels }
  holds levels data := data.enchants.reaches levels

end ItemSpec.Modifier.Enchanting
