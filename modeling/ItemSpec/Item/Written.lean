import ItemSpec.Item.Stack
set_option autoImplicit false

/-! The written form of stacks and metadata, for messages: every part under its name, in order. Names of
the catalogue are written with their list, as a member of it and as the text that they are. -/

namespace ItemSpec

private def writtenMember (list : String) (member name : Text) : Text :=
  '<' :: list.toList ++ '.' :: member ++ ':' :: ' ' :: Text.quote name ++ ['>']

namespace Material

def written (material : Material) : Text :=
  writtenMember "Material" material.name material.name

end Material

namespace Enchantment

def written (enchantment : Enchantment) : Text :=
  writtenMember "Enchantment" (enchantment.name.map Char.toUpper) enchantment.name

end Enchantment

namespace ItemFlag

def written (flag : ItemFlag) : Text :=
  writtenMember "ItemFlag" (flag.name.map Char.toUpper) flag.name

end ItemFlag

private def writtenOption {Value : Type} (written : Value → Text) : Option Value → Text
  | some value => written value
  | none => "None".toList

private def braced (parts : List Text) : Text :=
  '\x7b' :: Text.join [',', ' '] parts ++ ['\x7d']

namespace Meta

def written (data : Meta) : Text :=
  "ItemMeta(display_name=".toList ++ writtenOption Text.quote data.displayName ++
    ", lore=".toList ++ Text.quoteList data.lore ++
    ", enchants=".toList ++ braced (data.enchants.entries.map fun entry =>
      entry.1.written ++ ':' :: ' ' :: Decimal.render entry.2) ++
    ", custom_model_data=".toList ++ writtenOption Decimal.render data.customModelData ++
    ", unbreakable=".toList ++ (if data.unbreakable then "True" else "False").toList ++
    ", flags=".toList ++ (if data.flags.isEmpty then "set()".toList
      else braced (data.flags.toList.map ItemFlag.written)) ++
    ", tags=".toList ++ braced (data.tags.entries.map fun entry =>
      Text.quote entry.1 ++ ':' :: ' ' :: Text.quote entry.2) ++ [')']

end Meta

namespace Stack

/-- The written form of a stack, from that of what it carries as its metadata. -/
def writtenOf (material : Material) (amount : Int) (carried : Text) : Text :=
  "ItemStack(material=".toList ++ material.written ++ ", amount=".toList ++ Decimal.render amount ++
    ", meta=".toList ++ carried ++ [')']

end Stack

end ItemSpec
