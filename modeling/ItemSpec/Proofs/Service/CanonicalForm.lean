import Mathlib.Data.List.Dedup
import Mathlib.Data.List.Sort
import ItemSpec.Proofs.Service.Consistency
set_option autoImplicit false

/-! The canonical form of an item. A stack that is written and read again is the stack; and what is written of the
stack that a request describes is the request in canonical form: the material by its name in the catalogue, every
flag once and in the order of the names, and metadata exactly where the material is not air. -/

namespace ItemSpec

private theorem ItemFlag.name_injective : Function.Injective name :=
  Function.IsPartialInv.injective fun flag _ =>
    ⟨name_eq_of_ofName?, fun same => same ▸ ofName?_name flag⟩

namespace FlagSet

def NotAfter (earlier later : ItemFlag) : Prop :=
  ¬later.name < earlier.name

instance : DecidableRel NotAfter :=
  fun earlier later => inferInstanceAs (Decidable ¬later.name < earlier.name)

instance : Std.Total NotAfter where
  total flag other := by
    by_cases before : flag.name < other.name
    · exact .inl (List.lt_asymm before)
    · exact .inr before

instance : IsTrans ItemFlag NotAfter where
  trans _ _ _ first second := List.not_lt.2 (List.le_trans (List.not_lt.1 first) (List.not_lt.1 second))

instance : Std.Antisymm NotAfter where
  antisymm _ _ notAfter notBefore :=
    ItemFlag.name_injective (List.le_antisymm (List.not_lt.1 notAfter) (List.not_lt.1 notBefore))

def inOrder (flags : List ItemFlag) : List ItemFlag :=
  flags.dedup.insertionSort NotAfter

private theorem toList_ofList (flags : List ItemFlag) : (ofList flags).toList = inOrder flags := by
  have ordered : (ofList flags).toList.Pairwise NotAfter :=
    (inNameOrder_increasing.imp List.lt_asymm).filter _
  have distinct : (ofList flags).toList.Nodup := List.Nodup.filter _ (by decide)
  have sameFlags : (ofList flags).toList.Perm flags.dedup := by
    refine (List.perm_ext_iff_of_nodup distinct flags.nodup_dedup).2 fun flag => ?_
    rw [mem_toList, has_ofList, List.mem_dedup]
  exact (sameFlags.trans (List.perm_insertionSort _ _).symm).eq_of_pairwise' ordered (List.pairwise_insertionSort _ _)

end FlagSet

/-- Metadata in canonical form: only the flags have several forms. -/
def DataForm.canonical (form : DataForm) : DataForm :=
  { form with flags := FlagSet.inOrder form.flags }

def ItemForm.canonical (item : ItemForm) : ItemForm where
  material := Text.upper item.material
  amount := item.amount
  data? := if Text.upper item.material = Material.air.name then none else some (item.data?.getD {}).canonical

private theorem DataForm.ofMeta_toMeta (form : DataForm) : ofMeta form.toMeta = form.canonical := by
  rw [ofMeta, toMeta, FlagSet.toList_ofList, canonical]

namespace ItemForm

variable {item : ItemForm} {material : Material}

private theorem ofStack_toStack (named : material.name = Text.upper item.material) :
    ofStack (item.toStack material) = item.canonical := by
  have airIff : Text.upper item.material = Material.air.name ↔ material = .air := by
    rw [← named, Material.name_injective.eq_iff]
  by_cases isAir : material = .air
  · rw [toStack, StackForm.toStack, Stack.settle, if_pos isAir, canonical, if_pos (airIff.2 isAir), ← named]
    rfl
  · rw [toStack, StackForm.toStack, Stack.settle, if_neg isAir, canonical, if_neg (mt airIff.1 isAir), ← named]
    have data : (item.data?.map DataForm.toMeta).getD .blank = (item.data?.getD {}).toMeta := by
      cases item.data? <;> rfl
    simp only [ofStack, toForm, data, Option.map_some, DataForm.ofMeta_toMeta]

private theorem toStack_ofStack {stack : Stack} (settled : stack.Settled) :
    (ofStack stack).toStack stack.material = stack := by
  rw [toStack, toForm_ofStack, StackForm.toStack_ofStack, Stack.settle_of_settled settled]

end ItemForm

namespace Service

variable {engine : Engine} (catalogued : engine.resolve = Resolver.catalogue)

/-- The stack that the service matches for an item. -/
def rebuilt? (engine : Engine) (place : List Step) (json : Json) : Option Stack :=
  match StackForm.check place json with
  | .faulty _ => none
  | .sound form => (material? engine form.material).map form.toStack

private theorem rebuilt?_of_sound {place : List Step} {json : Json} {item : ItemForm}
    (sound : ItemForm.check place json = .sound item) :
    rebuilt? engine place json = (material? engine item.material).map item.toStack := by
  have read : StackForm.check place json = .sound item.toForm := by
    rw [StackForm.check_eq_map]
    simp only [sound]
    rfl
  rw [rebuilt?, read]
  rfl

/-- An item that is offered is matched as the stack that is rebuilt for it. -/
theorem says_matches_iff {offer : Request} {spec : Text} {json : Json} {stack : Stack} (offers : offer.Offers spec json)
    (rebuilt : rebuilt? engine [.field "body".toList, .field "item".toList] json = some stack) (verdict : Bool) :
    (respond (some engine) offer).Says "matches" (.bool verdict) ↔
      ∃ found, (engine.lookup spec).outcome = .ok found ∧ found.matcher.accepts stack = .ok verdict := by
  unfold rebuilt? at rebuilt
  split at rebuilt
  · cases rebuilt
  · rename_i form sound
    obtain ⟨material, known, rfl⟩ := Option.map_eq_some_iff.1 rebuilt
    rw [respond_matching offers sound, judge_says_iff known]

include catalogued

private theorem name_of_material? {written : Text} {material : Material}
    (accepted : material? engine written = some material) : material.name = Text.upper written := by
  unfold material? at accepted
  split at accepted
  · rename_i isAir
    cases accepted
    exact isAir.symm
  · rw [catalogued] at accepted
    exact Material.name_of_resolve accepted

private theorem rebuilt?_toJson {stack : Stack} (settled : stack.Settled) (place : List Step) :
    rebuilt? engine place stack.toJson = some stack := by
  have accepted : material? engine (ItemForm.ofStack stack).material = some stack.material :=
    material?_name catalogued stack.material
  have sound : ItemForm.check place (ItemForm.ofStack stack).toJson = .sound (ItemForm.ofStack stack) :=
    ItemForm.check_toJson place stack.material.name_ne_nil
  rw [← ItemForm.toJson_ofStack, rebuilt?_of_sound sound, accepted, Option.map_some,
    ItemForm.toStack_ofStack settled]

private theorem ofStack_rebuilt {place : List Step} {json : Json} {item : ItemForm} {stack : Stack}
    (sound : ItemForm.check place json = .sound item) (rebuilt : rebuilt? engine place json = some stack) :
    stack.Settled ∧ ItemForm.ofStack stack = item.canonical := by
  rw [rebuilt?_of_sound sound] at rebuilt
  obtain ⟨material, accepted, rfl⟩ := Option.map_eq_some_iff.1 rebuilt
  exact ⟨Stack.settle_settled _, ItemForm.ofStack_toStack (name_of_material? catalogued accepted)⟩

/-- A stack that is written and read again is the same stack. What is written of the stack that is rebuilt for an
item is the item in canonical form, and of that the same stack is rebuilt. -/
theorem rebuilt_canonical (place : List Step) :
    (∀ stack : Stack, stack.Settled → rebuilt? engine place stack.toJson = some stack) ∧
    (∀ item : ItemForm, item.material ≠ [] → ItemForm.check place item.toJson = .sound item) ∧
    ∀ json item, ItemForm.check place json = .sound item →
      (∀ stack, rebuilt? engine place json = some stack ↔
        ∃ material, material? engine item.material = some material ∧ item.toStack material = stack) ∧
      ∀ stack, rebuilt? engine place json = some stack →
        ItemForm.ofStack stack = item.canonical ∧ stack.toJson = item.canonical.toJson ∧
          ItemForm.check place item.canonical.toJson = .sound item.canonical ∧
          rebuilt? engine place item.canonical.toJson = some stack ∧ item.canonical.canonical = item.canonical := by
  refine ⟨fun stack settled => rebuilt?_toJson catalogued settled place, fun item => ItemForm.check_toJson place, ?_⟩
  intro json item sound
  constructor
  · intro stack
    rw [rebuilt?_of_sound sound, Option.map_eq_some_iff]
  · intro stack rebuilt
    obtain ⟨settled, shown⟩ := ofStack_rebuilt catalogued sound rebuilt
    have written : stack.toJson = item.canonical.toJson := by rw [← shown, ItemForm.toJson_ofStack]
    have again := rebuilt?_toJson catalogued settled place
    have named : item.canonical.material ≠ [] := by
      rw [← shown]
      exact stack.material.name_ne_nil
    have soundAgain := ItemForm.check_toJson place named
    rw [written] at again
    obtain ⟨_, shownAgain⟩ := ofStack_rebuilt catalogued soundAgain again
    exact ⟨shown, written, soundAgain, again, shownAgain.symm.trans shown⟩

omit catalogued

/-- A sword by its name in small letters, with a flag that is there twice. -/
theorem rebuilt_canonical_sword :
    let engine := Settings.engine { policy := .exact }
    let item : ItemForm :=
      { material := "Diamond_sword".toList,
        data? := some { flags := [.hideEnchants, .hideDye, .hideEnchants] } }
    let canonical : ItemForm :=
      { material := "DIAMOND_SWORD".toList, data? := some { flags := [.hideDye, .hideEnchants] } }
    ∃ stack, rebuilt? engine [] item.toJson = some stack ∧ ItemForm.ofStack stack = canonical ∧
      rebuilt? engine [] canonical.toJson = some stack := by
  intro engine item canonical
  obtain ⟨_, reads, back⟩ := rebuilt_canonical (rfl : engine.resolve = Resolver.catalogue) []
  obtain ⟨rebuiltIff, writes⟩ := back item.toJson item (reads item (by decide))
  have accepted : material? engine item.material = some .diamondSword := by decide +kernel
  have rebuilt := (rebuiltIff _).2 ⟨.diamondSword, accepted, rfl⟩
  have isCanonical : item.canonical = canonical := by decide +kernel
  obtain ⟨shown, _, _, again, _⟩ := writes _ rebuilt
  rw [isCanonical] at shown again
  exact ⟨_, rebuilt, shown, again⟩

end Service

end ItemSpec
