import ItemSpec.Item.Stack
set_option autoImplicit false

/-! What a host puts where a stack, or the metadata of a stack, is looked at: such a thing, nothing, or
an object of another sort. An object of another sort is taken by the parts that it happens to have; to
look at a part that it lacks is a fault, and so it is to look at a part of nothing. -/

namespace ItemSpec

inductive DataPart where
  | displayName | lore | enchants | customModelData | unbreakable | flags | tags
deriving DecidableEq

namespace DataPart

def all : List DataPart :=
  [.displayName, .lore, .enchants, .customModelData, .unbreakable, .flags, .tags]

def name : DataPart → Text
  | .displayName => "display_name".toList
  | .lore => "lore".toList
  | .enchants => "enchants".toList
  | .customModelData => "custom_model_data".toList
  | .unbreakable => "unbreakable".toList
  | .flags => "flags".toList
  | .tags => "tags".toList

/-- Whether a change puts the part in place as a whole. A list, a map or a set is changed within, so it
has to be there before. -/
def isPlain : DataPart → Bool
  | .displayName => true
  | .customModelData => true
  | .unbreakable => true
  | _ => false

end DataPart

/-- An object of another sort in the place of metadata. -/
structure OtherData where
  form : Text
  parts : List DataPart
  /-- What those parts are; every other part is blank here. -/
  held : Meta

namespace OtherData

def canEdit (object : OtherData) (part : DataPart) : Bool :=
  part.isPlain || object.parts.contains part

def edit (object : OtherData) (part : DataPart) (held : Meta) : OtherData :=
  { object with parts := part :: object.parts, held }

end OtherData

inductive DataSlot where
  | nothing
  | data (data : Meta)
  | other (object : OtherData)

namespace DataSlot

def ofMeta? : Option Meta → DataSlot
  | none => .nothing
  | some held => .data held

def form : DataSlot → Text
  | .nothing => Fault.noForm
  | .data _ => "ItemMeta".toList
  | .other object => object.form

def lacks {Part : Type} (slot : DataSlot) (part : DataPart) : Except Fault Part :=
  .error (.lacks slot.form part.name)

def read (slot : DataSlot) (part : DataPart) : Except Fault Meta :=
  match slot with
  | .nothing => slot.lacks part
  | .data held => .ok held
  | .other object =>
    if part ∈ object.parts then .ok object.held else slot.lacks part

/-- The metadata to show, or the first part that is missed in showing it. -/
def shown (slot : DataSlot) : Except Fault (Option Meta) :=
  match slot with
  | .nothing => .ok none
  | .data held => .ok (some held)
  | .other object =>
    match DataPart.all.find? fun part => decide (part ∉ object.parts) with
    | some missed => slot.lacks missed
    | none => .ok (some object.held)

end DataSlot

structure OtherStack where
  form : Text
  material? : Option Material
  amount? : Option Int
  data? : Option DataSlot

inductive Slot where
  | nothing
  | stack (stack : Stack)
  | other (object : OtherStack)

namespace Slot

def ofStack? : Option Stack → Slot
  | none => .nothing
  | some held => .stack held

private def partOf {Part : Type} (form : Text) (name : String) : Option Part → Except Fault Part
  | some part => .ok part
  | none => .error (.lacks form name.toList)

def material : Slot → Except Fault Material
  | .nothing => .error (.absent "material")
  | .stack held => .ok held.material
  | .other object => partOf object.form "material" object.material?

def amount : Slot → Except Fault Int
  | .nothing => .error (.absent "amount")
  | .stack held => .ok held.amount
  | .other object => partOf object.form "amount" object.amount?

def data : Slot → Except Fault DataSlot
  | .nothing => .error (.absent "meta")
  | .stack held => .ok (.ofMeta? held.meta?)
  | .other object => partOf object.form "meta" object.data?

/-- The stack to show, or the first part that is missed in showing it. -/
def shown (slot : Slot) : Except Fault Stack := do
  let material ← slot.material
  let amount ← slot.amount
  let meta? ← (← slot.data).shown
  pure ⟨material, amount, meta?⟩

/-- A plain stack that is as much like what stands there as a plain stack can be. -/
def standIn : Slot → Stack
  | .stack held => held
  | slot => .of (slot.material.toOption.getD .air) (slot.amount.toOption.getD 1)

/-! ### Stacks have every part -/

@[simp] theorem material_stack (stack : Stack) :
    (Slot.stack stack).material = .ok stack.material := rfl

@[simp] theorem amount_stack (stack : Stack) : (Slot.stack stack).amount = .ok stack.amount := rfl

@[simp] theorem data_stack (stack : Stack) :
    (Slot.stack stack).data = .ok (.ofMeta? stack.meta?) := rfl

end Slot

end ItemSpec
