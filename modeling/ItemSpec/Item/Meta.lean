import ItemSpec.Item.Catalog
import ItemSpec.Item.Tags
set_option autoImplicit false

/-! The metadata of a stack. Every part is kept in a form in which equal contents are equal values:
levels and flags as functions on the catalogue, tags as an ordered map. -/

namespace ItemSpec

@[ext] structure Levels where
  level? : Enchantment → Option Int

namespace Levels

instance : DecidableEq Levels := fun left right =>
  if same : ∀ enchantment ∈ Enchantment.all, left.level? enchantment = right.level? enchantment then
    .isTrue (Levels.ext (funext fun enchantment => same enchantment enchantment.mem_all))
  else .isFalse fun equal => same fun enchantment _ => by rw [equal]

def empty : Levels := ⟨fun _ => none⟩

def level (levels : Levels) (enchantment : Enchantment) : Int :=
  (levels.level? enchantment).getD 0

def set (levels : Levels) (enchantment : Enchantment) (level : Int) : Levels :=
  ⟨fun sought => if sought = enchantment then some level else levels.level? sought⟩

def erase (levels : Levels) (enchantment : Enchantment) : Levels :=
  ⟨fun sought => if sought = enchantment then none else levels.level? sought⟩

def update (levels overriding : Levels) : Levels :=
  ⟨fun sought => (overriding.level? sought).or (levels.level? sought)⟩

def isEmpty (levels : Levels) : Bool :=
  Enchantment.all.all fun enchantment => (levels.level? enchantment).isNone

/-- Whether every enchantment present in `required` has at least that level here; an absent one
counts as level zero. -/
def reaches (levels required : Levels) : Bool :=
  Enchantment.all.all fun enchantment =>
    match required.level? enchantment with
    | some least => decide (least ≤ levels.level enchantment)
    | none => true

def entries (levels : Levels) : List (Enchantment × Int) :=
  Enchantment.all.filterMap fun enchantment =>
    (levels.level? enchantment).map fun level => (enchantment, level)

/-- The levels of a list of entries; of entries with one enchantment the last counts. -/
def ofList (entries : List (Enchantment × Int)) : Levels :=
  entries.foldl (fun levels entry => levels.set entry.1 entry.2) empty

/-! ### Levels as a function -/

@[simp] theorem level?_empty (sought : Enchantment) : empty.level? sought = none := rfl

@[simp] theorem level?_set (levels : Levels) (enchantment sought : Enchantment) (level : Int) :
    (levels.set enchantment level).level? sought =
      if sought = enchantment then some level else levels.level? sought := rfl

@[simp] theorem level?_erase (levels : Levels) (enchantment sought : Enchantment) :
    (levels.erase enchantment).level? sought =
      if sought = enchantment then none else levels.level? sought := rfl

@[simp] theorem level?_update (levels overriding : Levels) (sought : Enchantment) :
    (levels.update overriding).level? sought =
      (overriding.level? sought).or (levels.level? sought) := rfl

theorem isEmpty_iff (levels : Levels) : levels.isEmpty = true ↔ levels = empty := by
  constructor
  · intro none
    refine Levels.ext (funext fun enchantment => ?_)
    simpa using List.all_eq_true.1 none enchantment enchantment.mem_all
  · intro same
    subst same
    exact List.all_eq_true.2 fun _ _ => rfl

theorem reaches_iff (levels required : Levels) :
    levels.reaches required = true ↔
      ∀ enchantment least, required.level? enchantment = some least →
        least ≤ levels.level enchantment := by
  constructor
  · intro every enchantment least asked
    have here := List.all_eq_true.1 every enchantment enchantment.mem_all
    simpa only [asked, decide_eq_true_eq] using here
  · intro every
    refine List.all_eq_true.2 fun enchantment _ => ?_
    cases asked : required.level? enchantment with
    | none => rfl
    | some least => simpa only [decide_eq_true_eq] using every enchantment least asked

theorem mem_entries (levels : Levels) (enchantment : Enchantment) (level : Int) :
    (enchantment, level) ∈ levels.entries ↔ levels.level? enchantment = some level := by
  constructor
  · intro member
    obtain ⟨listed, _, present⟩ := List.mem_filterMap.1 member
    obtain ⟨found, held, same⟩ := Option.map_eq_some_iff.1 present
    cases same
    exact held
  · intro held
    refine List.mem_filterMap.2 ⟨enchantment, enchantment.mem_all, ?_⟩
    rw [held]
    rfl

end Levels

@[ext] structure FlagSet where
  has : ItemFlag → Bool

namespace FlagSet

instance : DecidableEq FlagSet := fun left right =>
  if same : ∀ flag ∈ ItemFlag.all, left.has flag = right.has flag then
    .isTrue (FlagSet.ext (funext fun flag => same flag flag.mem_all))
  else .isFalse fun equal => same fun flag _ => by rw [equal]

def empty : FlagSet := ⟨fun _ => false⟩

def insert (flags : FlagSet) (flag : ItemFlag) : FlagSet :=
  ⟨fun sought => decide (sought = flag) || flags.has sought⟩

def erase (flags : FlagSet) (flag : ItemFlag) : FlagSet :=
  ⟨fun sought => !decide (sought = flag) && flags.has sought⟩

def union (flags others : FlagSet) : FlagSet :=
  ⟨fun sought => flags.has sought || others.has sought⟩

def isEmpty (flags : FlagSet) : Bool :=
  ItemFlag.all.all fun flag => !flags.has flag

def includes (flags required : FlagSet) : Bool :=
  ItemFlag.all.all fun flag => !required.has flag || flags.has flag

def inNameOrder : List ItemFlag :=
  [.hideAttributes, .hideDye, .hideEnchants, .hideUnbreakable]

def toList (flags : FlagSet) : List ItemFlag :=
  inNameOrder.filter flags.has

def ofList (flags : List ItemFlag) : FlagSet :=
  flags.foldl insert empty

/-! ### Flags as a function -/

@[simp] theorem has_empty (sought : ItemFlag) : empty.has sought = false := rfl

@[simp] theorem has_insert (flags : FlagSet) (flag sought : ItemFlag) :
    (flags.insert flag).has sought = (decide (sought = flag) || flags.has sought) := rfl

@[simp] theorem has_erase (flags : FlagSet) (flag sought : ItemFlag) :
    (flags.erase flag).has sought = (!decide (sought = flag) && flags.has sought) := rfl

@[simp] theorem has_union (flags others : FlagSet) (sought : ItemFlag) :
    (flags.union others).has sought = (flags.has sought || others.has sought) := rfl

theorem isEmpty_iff (flags : FlagSet) : flags.isEmpty = true ↔ flags = empty := by
  constructor
  · intro none
    refine FlagSet.ext (funext fun flag => ?_)
    simpa using List.all_eq_true.1 none flag flag.mem_all
  · intro same
    subst same
    exact List.all_eq_true.2 fun _ _ => rfl

theorem includes_iff (flags required : FlagSet) :
    flags.includes required = true ↔ ∀ flag, required.has flag = true → flags.has flag = true := by
  constructor
  · intro every flag asked
    have here := List.all_eq_true.1 every flag flag.mem_all
    simpa [asked] using here
  · intro every
    refine List.all_eq_true.2 fun flag _ => ?_
    cases asked : required.has flag with
    | false => rfl
    | true => simpa using every flag asked

theorem has_ofList (flags : List ItemFlag) (sought : ItemFlag) :
    (ofList flags).has sought = true ↔ sought ∈ flags := by
  have general : ∀ (start : FlagSet),
      (flags.foldl insert start).has sought = true ↔ sought ∈ flags ∨ start.has sought = true := by
    induction flags with
    | nil => simp
    | cons flag others ih =>
      intro start
      rw [List.foldl_cons, ih, has_insert, List.mem_cons]
      by_cases same : sought = flag <;> simp [same]
  exact (general empty).trans (by simp)

theorem inNameOrder_increasing :
    inNameOrder.Pairwise fun earlier later => earlier.name < later.name := by
  decide +kernel

private theorem mem_inNameOrder (flag : ItemFlag) : flag ∈ inNameOrder := by
  cases flag <;> decide

theorem mem_toList (flags : FlagSet) (flag : ItemFlag) :
    flag ∈ flags.toList ↔ flags.has flag = true := by
  simp [toList, mem_inNameOrder]

end FlagSet

structure Meta where
  displayName : Option Text := none
  lore : List Text := []
  enchants : Levels := .empty
  customModelData : Option Int := none
  unbreakable : Bool := false
  flags : FlagSet := .empty
  tags : Tags := .empty
deriving DecidableEq

def Meta.blank : Meta := {}

end ItemSpec
