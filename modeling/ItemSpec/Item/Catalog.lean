import ItemSpec.Fault
import ItemSpec.Json
set_option autoImplicit false

/-! The catalogue: the closed lists of materials, enchantments, item flags and stack policies, each
with the names by which they are written. -/

namespace ItemSpec

/-- What a stack is made of. Air stands for the empty slot. -/
inductive Material where
  | air | stone | cobblestone | dirt | oakLog | oakPlanks | stick | coal | ironIngot | goldIngot
  | diamond | emerald | netheriteIngot | redstone | book | paper | blazeRod | enderPearl
  | diamondSword | diamondPickaxe | ironSword | bow | leatherChestplate | playerHead
deriving DecidableEq

namespace Material

def all : List Material :=
  [.air, .stone, .cobblestone, .dirt, .oakLog, .oakPlanks, .stick, .coal, .ironIngot, .goldIngot,
   .diamond, .emerald, .netheriteIngot, .redstone, .book, .paper, .blazeRod, .enderPearl,
   .diamondSword, .diamondPickaxe, .ironSword, .bow, .leatherChestplate, .playerHead]

def name : Material → Text
  | .air => "AIR".toList
  | .stone => "STONE".toList
  | .cobblestone => "COBBLESTONE".toList
  | .dirt => "DIRT".toList
  | .oakLog => "OAK_LOG".toList
  | .oakPlanks => "OAK_PLANKS".toList
  | .stick => "STICK".toList
  | .coal => "COAL".toList
  | .ironIngot => "IRON_INGOT".toList
  | .goldIngot => "GOLD_INGOT".toList
  | .diamond => "DIAMOND".toList
  | .emerald => "EMERALD".toList
  | .netheriteIngot => "NETHERITE_INGOT".toList
  | .redstone => "REDSTONE".toList
  | .book => "BOOK".toList
  | .paper => "PAPER".toList
  | .blazeRod => "BLAZE_ROD".toList
  | .enderPearl => "ENDER_PEARL".toList
  | .diamondSword => "DIAMOND_SWORD".toList
  | .diamondPickaxe => "DIAMOND_PICKAXE".toList
  | .ironSword => "IRON_SWORD".toList
  | .bow => "BOW".toList
  | .leatherChestplate => "LEATHER_CHESTPLATE".toList
  | .playerHead => "PLAYER_HEAD".toList

def ofName? (name : Text) : Option Material :=
  all.find? fun candidate => candidate.name = name

theorem mem_all (material : Material) : material ∈ all := by
  cases material <;> decide

theorem ofName?_name (material : Material) : ofName? material.name = some material := by
  have every : ∀ listed ∈ all, ofName? listed.name = some listed := by decide +kernel
  exact every material (mem_all material)

theorem name_eq_of_ofName? {written : Text} {material : Material}
    (found : ofName? written = some material) : material.name = written := by
  simpa using List.find?_some found

/-- The material that a name denotes in any case of its letters. Air is no answer: it names no item. -/
def resolve (name : Text) : Option Material :=
  match ofName? (Text.upper name) with
  | some .air => none
  | found => found

end Material

inductive Enchantment where
  | sharpness | smite | unbreaking | mending | efficiency | fortune | silkTouch | looting
  | fireAspect | protection | power | infinity
deriving DecidableEq

namespace Enchantment

def all : List Enchantment :=
  [.sharpness, .smite, .unbreaking, .mending, .efficiency, .fortune, .silkTouch, .looting,
   .fireAspect, .protection, .power, .infinity]

def name : Enchantment → Text
  | .sharpness => "sharpness".toList
  | .smite => "smite".toList
  | .unbreaking => "unbreaking".toList
  | .mending => "mending".toList
  | .efficiency => "efficiency".toList
  | .fortune => "fortune".toList
  | .silkTouch => "silk_touch".toList
  | .looting => "looting".toList
  | .fireAspect => "fire_aspect".toList
  | .protection => "protection".toList
  | .power => "power".toList
  | .infinity => "infinity".toList

def ofName? (name : Text) : Option Enchantment :=
  all.find? fun candidate => candidate.name = name

theorem mem_all (enchantment : Enchantment) : enchantment ∈ all := by
  cases enchantment <;> decide

theorem ofName?_name (enchantment : Enchantment) : ofName? enchantment.name = some enchantment := by
  have every : ∀ listed ∈ all, ofName? listed.name = some listed := by decide +kernel
  exact every enchantment (mem_all enchantment)

theorem name_eq_of_ofName? {written : Text} {enchantment : Enchantment}
    (found : ofName? written = some enchantment) : enchantment.name = written := by
  simpa using List.find?_some found

end Enchantment

inductive ItemFlag where
  | hideEnchants | hideAttributes | hideUnbreakable | hideDye
deriving DecidableEq

namespace ItemFlag

def all : List ItemFlag :=
  [.hideEnchants, .hideAttributes, .hideUnbreakable, .hideDye]

def name : ItemFlag → Text
  | .hideEnchants => "hide_enchants".toList
  | .hideAttributes => "hide_attributes".toList
  | .hideUnbreakable => "hide_unbreakable".toList
  | .hideDye => "hide_dye".toList

def ofName? (name : Text) : Option ItemFlag :=
  all.find? fun candidate => candidate.name = name

theorem mem_all (flag : ItemFlag) : flag ∈ all := by
  cases flag <;> decide

theorem ofName?_name (flag : ItemFlag) : ofName? flag.name = some flag := by
  have every : ∀ listed ∈ all, ofName? listed.name = some listed := by decide +kernel
  exact every flag (mem_all flag)

theorem name_eq_of_ofName? {written : Text} {flag : ItemFlag}
    (found : ofName? written = some flag) : flag.name = written := by
  simpa using List.find?_some found

end ItemFlag

inductive StackPolicy where
  | atLeast | exact
deriving DecidableEq

namespace StackPolicy

def all : List StackPolicy :=
  [.atLeast, .exact]

def name : StackPolicy → Text
  | .atLeast => "at_least".toList
  | .exact => "exact".toList

def ofName? (name : Text) : Option StackPolicy :=
  all.find? fun candidate => candidate.name = name

def accepts : StackPolicy → Int → Int → Bool
  | .atLeast, amount, required => decide (required ≤ amount)
  | .exact, amount, required => decide (amount = required)

end StackPolicy

/-- What was named by something that may name nothing. Whoever needs the value meets the fault, and no
one before. -/
abbrev Named (Value : Type) := Except Fault Value

namespace Catalog

def entry {Value : Type} (list : String) (ofName? : Text → Option Value) (value : Json) :
    Named Value :=
  let named := match value with
    | .text name => ofName? name
    | _ => none
  match named with
  | some found => .ok found
  | none => .error (.unlisted value.written list.toList)

def material : Json → Named Material :=
  entry "Material" Material.ofName?

def enchantment : Json → Named Enchantment :=
  entry "Enchantment" Enchantment.ofName?

def flag : Json → Named ItemFlag :=
  entry "ItemFlag" ItemFlag.ofName?

def policy : Json → Named StackPolicy :=
  entry "StackPolicy" StackPolicy.ofName?

end Catalog

end ItemSpec
