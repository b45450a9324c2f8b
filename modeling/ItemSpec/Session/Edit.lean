import ItemSpec.Session.Source
set_option autoImplicit false

/-! Edits of objects in place, with no regard to the rule of stacks. A part that is put in place is looked
at first and the object then; a part that is changed within is looked for first. -/

namespace ItemSpec

inductive DataEdit where
  | displayName (name? : Option Text)
  | addLore (line : Text)
  | enchant (named : Named Enchantment) (level : Int)
  | disenchant (named : Named Enchantment)
  | customModelData (number? : Option Int)
  | unbreakable (value : Bool)
  | addFlag (named : Named ItemFlag)
  | dropFlag (named : Named ItemFlag)
  | tag (key value : Text)
  | untag (key : Text)

inductive Edit where
  | amount (amount : Int)
  | material (named : Named Material)
  | replaceData (data : DataSource)
  | data (edit : DataEdit)

namespace DataEdit

def apply : DataEdit → Meta → Except Fault Meta
  | .displayName name?, data => .ok { data with displayName := name? }
  | .addLore line, data => .ok { data with lore := data.lore ++ [line] }
  | .enchant named level, data =>
    named.map fun enchantment => { data with enchants := data.enchants.set enchantment level }
  | .disenchant named, data =>
    named.map fun enchantment => { data with enchants := data.enchants.erase enchantment }
  | .customModelData number?, data => .ok { data with customModelData := number? }
  | .unbreakable value, data => .ok { data with unbreakable := value }
  | .addFlag named, data => named.map fun flag => { data with flags := data.flags.insert flag }
  | .dropFlag named, data => named.map fun flag => { data with flags := data.flags.erase flag }
  | .tag key value, data => .ok { data with tags := data.tags.insert key value }
  | .untag key, data => .ok { data with tags := data.tags.erase key }

def part : DataEdit → DataPart
  | .displayName _ => .displayName
  | .addLore _ => .lore
  | .enchant .. => .enchants
  | .disenchant _ => .enchants
  | .customModelData _ => .customModelData
  | .unbreakable _ => .unbreakable
  | .addFlag _ => .flags
  | .dropFlag _ => .flags
  | .tag .. => .tags
  | .untag _ => .tags

def applyToSlot (edit : DataEdit) : DataSlot → Except Fault DataSlot
  | .data data => (edit.apply data).map .data
  | .nothing => DataSlot.nothing.lacks edit.part
  | .other object =>
    if object.canEdit edit.part then
      (edit.apply object.held).map fun held => .other (object.edit edit.part held)
    else (DataSlot.other object).lacks edit.part

end DataEdit

namespace Edit

def apply (object : Entity) : Edit → Action Unit
  | .amount number => Action.putAmount object number
  | .material named => do Action.putMaterial object (← Action.settle named)
  | .replaceData source => do Action.putCarried object (← source.entity)
  | .data change => do
    Action.putDataSlot object (← Action.settle (change.applyToSlot ((← get).dataSlot object)))

end Edit

end ItemSpec
