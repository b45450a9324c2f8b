import ItemSpec.Item.Stack
import ItemSpec.Service.Validation
set_option autoImplicit false

/-! Stacks as JSON. A stack in a request names its material as its sender likes; a stack in an answer
has the name of the catalogue, every part of its metadata, and its flags in the order of their names. -/

namespace ItemSpec

/-- A stack as a request describes it: the material is a name yet. -/
structure StackForm where
  material : Text
  amount : Int := 1
  data? : Option Meta := none
deriving DecidableEq

structure MatchForm where
  spec : Text
  item : StackForm

namespace Meta

def toJson (data : Meta) : Json :=
  .object [
    ("display_name".toList, match data.displayName with | some name => .text name | none => .null),
    ("lore".toList, .array (data.lore.map .text)),
    ("enchants".toList, .object (data.enchants.entries.map fun (enchantment, level) =>
      (enchantment.name, .integer level))),
    ("custom_model_data".toList,
      match data.customModelData with | some number => .integer number | none => .null),
    ("unbreakable".toList, .bool data.unbreakable),
    ("flags".toList, .array (data.flags.toList.map fun flag => .text flag.name)),
    ("tags".toList, .object (data.tags.entries.map fun (key, value) => (key, .text value)))]

def check : Check Meta :=
  .object fun place object =>
    Meta.mk
      <$> Check.withDefault "display_name" none (.optional .text) place object
      <*> Check.withDefault "lore" [] (.list .text) place object
      <*> (Levels.ofList <$> Check.withDefault "enchants" [] (.map .enchantment .integer) place object)
      <*> Check.withDefault "custom_model_data" none (.optional .integer)
        place object
      <*> Check.withDefault "unbreakable" false .truth place object
      <*> (FlagSet.ofList <$> Check.withDefault "flags" [] (.list .itemFlag) place object)
      <*> (Tags.ofList <$> Check.withDefault "tags" [] (.map .text .text) place object)

end Meta

namespace StackForm

def ofStack (stack : Stack) : StackForm :=
  ⟨stack.material.name, stack.amount, stack.meta?⟩

def toStack (form : StackForm) (material : Material) : Stack :=
  Stack.settle ⟨material, form.amount, form.data?⟩

def toJson (form : StackForm) : Json :=
  .object [
    ("material".toList, .text form.material),
    ("amount".toList, .integer form.amount),
    ("meta".toList, match form.data? with | some data => data.toJson | none => .null)]

def check : Check StackForm :=
  .object fun place object =>
    StackForm.mk
      <$> Check.required "material" .someText place object
      <*> Check.withDefault "amount" 1 .integer place object
      <*> Check.withDefault "meta" none (.optional Meta.check) place object

end StackForm

namespace Stack

def toJson (stack : Stack) : Json :=
  (StackForm.ofStack stack).toJson

end Stack

namespace MatchForm

def check : Check MatchForm :=
  .object fun place object =>
    MatchForm.mk
      <$> Check.required "spec" .text place object
      <*> Check.required "item" StackForm.check place object

end MatchForm

end ItemSpec
