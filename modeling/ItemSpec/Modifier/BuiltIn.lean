import ItemSpec.Modifier.DisplayName
import ItemSpec.Modifier.Enchantment
import ItemSpec.Modifier.Flag
import ItemSpec.Modifier.ModelData
import ItemSpec.Modifier.Unbreakable
set_option autoImplicit false

/-! The five parsers of the library. -/

namespace ItemSpec.Modifier

inductive BuiltIn where
  | enchantment | modelData | unbreakable | flag | displayName
deriving DecidableEq

namespace BuiltIn

def all : List BuiltIn :=
  [.enchantment, .modelData, .unbreakable, .flag, .displayName]

def parser : BuiltIn → Parser
  | .enchantment => Enchanting.rule.parser
  | .modelData => ModelData.rule.parser
  | .unbreakable => Unbreakable.rule.parser
  | .flag => Flag.rule.parser
  | .displayName => DisplayName.rule.parser

end BuiltIn

end ItemSpec.Modifier
