import Mathlib.Control.Basic
import ItemSpec.Proofs.Item.Listing
import ItemSpec.Proofs.Item.MaterialName
import ItemSpec.Service.Schema
set_option autoImplicit false

/-! The JSON of a stack is read as the stack. Each check undoes the way in which an answer writes what it
checks, at whatever place it stands. -/

namespace ItemSpec

namespace Check

variable {Value Key : Type} {check : Check Value} {write : Value → Json}

/-- The check undoes a way to write values. -/
def Reads (check : Check Value) (write : Value → Json) : Prop :=
  ∀ place value, check place (write value) = .sound value

private theorem text_reads : text.Reads .text := fun _ _ => rfl

private theorem integer_reads : integer.Reads .integer := fun _ _ => rfl

private theorem truth_reads : truth.Reads .bool := fun _ _ => rfl

private theorem listed_reads {ofName? : Text → Option Value} {name : Value → Text}
    (named : ∀ value, ofName? (name value) = some value) (names : List Text) :
    (listed ofName? names).Reads fun value => .text (name value) := by
  intro place value
  simp only [listed, named]

private theorem enchantment_reads : enchantment.Reads fun value => .text value.name :=
  listed_reads Enchantment.ofName?_name _

private theorem itemFlag_reads : itemFlag.Reads fun value => .text value.name :=
  listed_reads ItemFlag.ofName?_name _

private theorem all_sound (values : List Value) : Checked.all (values.map .sound) = .sound values := by
  induction values with
  | nil => rfl
  | cons value others ih =>
      rw [List.map_cons, Checked.all, ih]
      rfl

private theorem list_reads (reads : check.Reads write) :
    (list check).Reads fun values => .array (values.map write) := by
  intro place values
  have each : (values.map write).zipIdx.map (fun entry => check (place ++ [.index entry.2]) entry.1) =
      values.map Checked.sound := by
    rw [List.zipIdx_map, List.map_map]
    calc values.zipIdx.map _ = values.zipIdx.map (Checked.sound ∘ Prod.fst) :=
          List.map_congr_left fun entry _ => reads (place ++ [.index entry.2]) entry.1
      _ = values.map Checked.sound := by rw [← List.map_map, List.zipIdx_map_fst]
  exact (congrArg Checked.all each).trans (all_sound values)

private theorem map_reads {key : Check Key} {name : Key → Text}
    (readsKey : key.Reads fun key => .text (name key))
    (reads : check.Reads write) :
    (map key check).Reads fun entries => .object (entries.map fun entry => (name entry.1, write entry.2)) := by
  intro place entries
  have each : (entries.map fun entry => (name entry.1, write entry.2)).map (fun member =>
      Checked.combine Prod.mk (key (place ++ [.field member.1] ++ [keyStep]) (.text member.1))
        (check (place ++ [.field member.1]) member.2)) = entries.map Checked.sound := by
    rw [List.map_map]
    refine List.map_congr_left fun entry _ => ?_
    simp only [Function.comp_apply, readsKey _ entry.1, reads _ entry.2, Checked.combine]
  exact (congrArg Checked.all each).trans (all_sound entries)

private theorem optional_reads (reads : check.Reads write) (present : ∀ value, write value ≠ .null) :
    (optional check).Reads fun | some value => write value | none => .null := by
  intro place value?
  cases value? with
  | none => rfl
  | some value =>
      show optional check place (write value) = _
      rw [optional.eq_def]
      split
      · rename_i isNull
        exact absurd isNull (present value)
      · rw [reads]
        rfl

private theorem required_reads {name : String} {object : Json} {value : Value} (reads : check.Reads write)
    (held : object.member? name.toList = some (write value)) (place : List Step) :
    required name check place object = .sound value := by
  rw [required, held]
  exact reads _ value

private theorem withDefault_reads {name : String} {default value : Value} {object : Json}
    (reads : check.Reads write)
    (held : object.member? name.toList = some (write value)) (place : List Step) :
    withDefault name default check place object = .sound value := by
  rw [withDefault, held]
  exact reads _ value

end Check

/-! ### Problems in order -/

instance : LawfulApplicative Checked where
  map_const := rfl
  id_map checked := by cases checked <;> rfl
  seqLeft_eq first second := by cases first <;> cases second <;> rfl
  seqRight_eq first second := by cases first <;> cases second <;> rfl
  pure_seq _ _ := rfl
  map_pure _ _ := rfl
  seq_pure functions value := by cases functions <;> rfl
  seq_assoc first second third := by
    cases first <;> cases second <;> cases third <;>
      first | rfl | exact congrArg Checked.faulty (List.append_assoc _ _ _).symm

namespace Check

variable {Value Other : Type}

private theorem object_map (change : Value → Other) (members : Check Value) (place : List Step)
    (json : Json) :
    object (fun place json => change <$> members place json) place json = change <$> object members place json := by
  cases json <;> rfl

private theorem optional_map (change : Value → Other) (check : Check Value) (place : List Step)
    (json : Json) :
    optional (fun place json => change <$> check place json) place json =
      Option.map change <$> optional check place json := by
  have present (checked : Checked Value) :
      some <$> change <$> checked = Option.map change <$> some <$> checked := by cases checked <;> rfl
  cases json with
  | null => rfl
  | _ => exact present _

private theorem withDefault_map (change : Value → Other) (name : String) (default : Value)
    (check : Check Value)
    (place : List Step) (object : Json) :
    withDefault name (change default) (fun place json => change <$> check place json) place object =
      change <$> withDefault name default check place object := by
  unfold withDefault
  cases object.member? name.toList <;> rfl

end Check

/-! ### Items as they are written -/

open Check

structure DataForm where
  displayName : Option Text := none
  lore : List Text := []
  enchants : Levels := .empty
  customModelData : Option Int := none
  unbreakable : Bool := false
  flags : List ItemFlag := []
  tags : Tags := .empty
deriving DecidableEq

structure ItemForm where
  material : Text
  amount : Int := 1
  data? : Option DataForm := none
deriving DecidableEq

namespace DataForm

def ofMeta (data : Meta) : DataForm :=
  ⟨data.displayName, data.lore, data.enchants, data.customModelData, data.unbreakable, data.flags.toList, data.tags⟩

def toMeta (form : DataForm) : Meta :=
  ⟨form.displayName, form.lore, form.enchants, form.customModelData, form.unbreakable, .ofList form.flags, form.tags⟩

def toJson (form : DataForm) : Json :=
  .object [
    ("display_name".toList, match form.displayName with | some name => .text name | none => .null),
    ("lore".toList, .array (form.lore.map .text)),
    ("enchants".toList, .object (form.enchants.entries.map fun (enchantment, level) =>
      (enchantment.name, .integer level))),
    ("custom_model_data".toList,
      match form.customModelData with | some number => .integer number | none => .null),
    ("unbreakable".toList, .bool form.unbreakable),
    ("flags".toList, .array (form.flags.map fun flag => .text flag.name)),
    ("tags".toList, .object (form.tags.entries.map fun (key, value) => (key, .text value)))]

def check : Check DataForm :=
  .object fun place object =>
    DataForm.mk
      <$> Check.withDefault "display_name" none (.optional .text) place object
      <*> Check.withDefault "lore" [] (.list .text) place object
      <*> (Levels.ofList <$> Check.withDefault "enchants" [] (.map .enchantment .integer) place object)
      <*> Check.withDefault "custom_model_data" none (.optional .integer) place object
      <*> Check.withDefault "unbreakable" false .truth place object
      <*> Check.withDefault "flags" [] (.list .itemFlag) place object
      <*> (Tags.ofList <$> Check.withDefault "tags" [] (.map .text .text) place object)

private theorem toMeta_ofMeta (data : Meta) : (ofMeta data).toMeta = data := by
  rw [toMeta, ofMeta, FlagSet.ofList_toList]

private theorem check_reads : DataForm.check.Reads DataForm.toJson := by
  intro place form
  have displayName : withDefault "display_name" none (.optional .text) place form.toJson =
      .sound form.displayName :=
    withDefault_reads (optional_reads text_reads nofun) (by rcases form with ⟨_ | _, _⟩ <;> rfl) place
  have lore : withDefault "lore" [] (.list .text) place form.toJson = .sound form.lore :=
    withDefault_reads (list_reads text_reads) rfl place
  have enchants : withDefault "enchants" [] (.map .enchantment .integer) place form.toJson =
      .sound form.enchants.entries :=
    withDefault_reads (map_reads enchantment_reads integer_reads) rfl place
  have customModelData : withDefault "custom_model_data" none (.optional .integer) place form.toJson =
      .sound form.customModelData :=
    withDefault_reads (optional_reads integer_reads nofun) (by rcases form with ⟨_, _, _, _ | _, _⟩ <;> rfl) place
  have unbreakable : withDefault "unbreakable" false .truth place form.toJson = .sound form.unbreakable :=
    withDefault_reads truth_reads rfl place
  have flags : withDefault "flags" [] (.list .itemFlag) place form.toJson = .sound form.flags :=
    withDefault_reads (list_reads itemFlag_reads) rfl place
  have tags : withDefault "tags" [] (.map .text .text) place form.toJson = .sound form.tags.entries :=
    withDefault_reads (map_reads text_reads text_reads) rfl place
  have made : DataForm.check place form.toJson = .sound ⟨form.displayName, form.lore,
      .ofList form.enchants.entries, form.customModelData, form.unbreakable, form.flags,
      .ofList form.tags.entries⟩ := by
    obtain ⟨members, isObject⟩ : ∃ members, form.toJson = .object members := ⟨_, rfl⟩
    rw [isObject] at displayName lore enchants customModelData unbreakable flags tags ⊢
    simp only [DataForm.check, object, displayName, lore, enchants, customModelData, unbreakable, flags, tags]
    rfl
  rw [made, Levels.ofList_entries, Tags.ofList_entries]

end DataForm

/-- Metadata is read as it is written, and the order of its flags and repetitions among them are forgotten. -/
theorem Meta.check_eq_map : Meta.check = fun place json => DataForm.toMeta <$> DataForm.check place json := by
  funext place json
  rw [DataForm.check, ← object_map]
  simp only [Meta.check, map_seq, seq_map_assoc, Functor.map_map]
  rfl

namespace ItemForm

def toForm (item : ItemForm) : StackForm :=
  ⟨item.material, item.amount, item.data?.map DataForm.toMeta⟩

def ofStack (stack : Stack) : ItemForm :=
  ⟨stack.material.name, stack.amount, stack.meta?.map DataForm.ofMeta⟩

def toStack (item : ItemForm) (material : Material) : Stack :=
  item.toForm.toStack material

def toJson (item : ItemForm) : Json :=
  .object [
    ("material".toList, .text item.material),
    ("amount".toList, .integer item.amount),
    ("meta".toList, match item.data? with | some data => data.toJson | none => .null)]

def check : Check ItemForm :=
  .object fun place object =>
    ItemForm.mk
      <$> Check.required "material" .someText place object
      <*> Check.withDefault "amount" 1 .integer place object
      <*> Check.withDefault "meta" none (.optional DataForm.check) place object

theorem toForm_ofStack (stack : Stack) : (ofStack stack).toForm = StackForm.ofStack stack := by
  rcases stack with ⟨material, amount, _ | data⟩
  · rfl
  · exact congrArg (fun data => StackForm.mk material.name amount (some data)) (DataForm.toMeta_ofMeta data)

theorem toJson_ofStack (stack : Stack) : (ofStack stack).toJson = stack.toJson := by
  rcases stack with ⟨_, _, _ | _⟩ <;> rfl

theorem check_toJson (place : List Step) {item : ItemForm} (named : item.material ≠ []) :
    ItemForm.check place item.toJson = .sound item := by
  have material : required "material" .someText place item.toJson = .sound item.material := by
    show someText _ (.text item.material) = _
    cases written : item.material with
    | nil => exact absurd written named
    | cons => rfl
  have amount : withDefault "amount" 1 .integer place item.toJson = .sound item.amount :=
    withDefault_reads integer_reads rfl place
  have data : withDefault "meta" none (.optional DataForm.check) place item.toJson = .sound item.data? :=
    withDefault_reads (optional_reads DataForm.check_reads nofun) (by rcases item with ⟨_, _, _ | _⟩ <;> rfl) place
  obtain ⟨members, isObject⟩ : ∃ members, item.toJson = .object members := ⟨_, rfl⟩
  rw [isObject] at material amount data ⊢
  simp only [ItemForm.check, object, material, amount, data]
  rfl

end ItemForm

namespace StackForm

theorem check_eq_map : StackForm.check = fun place json => ItemForm.toForm <$> ItemForm.check place json := by
  funext place json
  rw [ItemForm.check, ← object_map]
  have data (place : List Step) (object : Json) :
      withDefault "meta" none (.optional Meta.check) place object =
        Option.map DataForm.toMeta <$> withDefault "meta" none (.optional DataForm.check) place object := by
    rw [← withDefault_map]
    simp only [← optional_map, Meta.check_eq_map]
    rfl
  simp only [StackForm.check, data, map_seq, seq_map_assoc, Functor.map_map]
  rfl

theorem toStack_ofStack (stack : Stack) : (ofStack stack).toStack stack.material = stack.settle := rfl

end StackForm

theorem Stack.check_toJson (place : List Step) (stack : Stack) :
    StackForm.check place stack.toJson = .sound (StackForm.ofStack stack) := by
  have named : (ItemForm.ofStack stack).material ≠ [] := stack.material.name_ne_nil
  rw [← ItemForm.toJson_ofStack, StackForm.check_eq_map]
  simp only [ItemForm.check_toJson place named]
  exact congrArg Checked.sound (ItemForm.toForm_ofStack stack)

theorem MatchForm.check_of_members {place : List Step} {members : List (Text × Json)} {spec : Text} {item : Json}
    {form : StackForm} (heldSpec : (Json.object members).member? "spec".toList = some (.text spec))
    (heldItem : (Json.object members).member? "item".toList = some item)
    (sound : StackForm.check (place ++ [.field "item".toList]) item = .sound form) :
    MatchForm.check place (.object members) = .sound ⟨spec, form⟩ := by
  have readSpec : required "spec" .text place (.object members) = .sound spec :=
    required_reads text_reads heldSpec place
  have readItem : required "item" StackForm.check place (.object members) = .sound form := by
    rw [required, heldItem]
    exact sound
  simp only [MatchForm.check, object, readSpec, readItem]
  rfl

end ItemSpec
