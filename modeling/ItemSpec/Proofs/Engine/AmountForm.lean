import ItemSpec.Proofs.Engine.KeySpelling
import ItemSpec.Proofs.Item.MaterialName
import ItemSpec.Proofs.Text.Numeral
set_option autoImplicit false

/-! The two places of an amount. `scope:name:amount` asks for what `scope:name amount` asks for, and
`material:amount` for what `material amount` does. The name of a material is put into lower case in the
one form and not in the other, which the Kelvin sign shows. -/

namespace ItemSpec.Engine

open Text (spaced unpadded kelvinSign IsToken IsPart)
open Traced (outcome_bind)
open Modifier (BuiltIn)

def GivesUp (engine : Engine) (base : Found) (modifiers : List Text) : Prop :=
  (engine.modify base modifiers).outcome = .ok none

variable {engine : Engine} {modifiers : List Text}

/-! ### Tokens behind the naming token -/

private theorem counts_of_word {named : Int}
    (word : ∀ first ∈ modifiers.head?, Number.read first = .ok none) :
    Counts named (unpadded modifiers) named (unpadded modifiers) := by
  rcases Text.head?_unpadded modifiers with none | same
  · rw [none]
    exact .nothing
  · cases kept : unpadded modifiers with
    | nil => exact .nothing
    | cons first others =>
        rw [kept, List.head?_cons] at same
        exact .unwritten (word first same.symm)

private theorem counts_of_number {named amount : Int} {token : Text}
    (number : Number.read token = .ok (some amount)) :
    Counts named (unpadded (token :: modifiers)) amount (unpadded modifiers) := by
  rw [Text.unpadded_cons (.inl (Number.inert_of_read number).1)]
  exact .written number

private theorem reads_spaced {token : Text} {others : List Text} {base : Base} {named amount : Int}
    (notEmpty : token ≠ []) (proper : ∀ part ∈ token :: others, IsToken part)
    (names : engine.Names token base named) (counts : Counts named (unpadded others) amount modifiers) :
    engine.Reads (spaced (token :: others)) ⟨base, amount, modifiers⟩ :=
  .intro (Text.cut_spaced_cons proper (.inl notEmpty)) notEmpty names counts

private theorem lookup_spaced {token : Text} {others : List Text} {base : Base} {named amount : Int}
    (notEmpty : token ≠ []) (proper : ∀ part ∈ token :: others, IsToken part)
    (names : engine.Names token base named) (counts : Counts named (unpadded others) amount modifiers) :
    engine.lookup (spaced (token :: others)) = engine.fill ⟨base, amount, modifiers⟩ := by
  rw [lookup_of_single (Text.question_not_mem_spaced proper)]
  exact lookupAlternative_of_reads (reads_spaced notEmpty proper names counts)

/-! ### Custom items -/

private theorem names_itemAmount {token written : Text} {key : Key} {item : Handle} {amount : Int}
    (spelled : Key.ofToken? token = some key) (bound : engine.registry.get? key = some item)
    (number : Number.read written = .ok (some amount)) :
    engine.Names (token ++ ':' :: written) (.item item) amount := by
  obtain ⟨scope, name, parts, rfl⟩ := (Key.ofToken?_eq_some_iff token key).1 spelled
  refine .itemAmount ?_ bound number
  rw [Number.cut_lower_append_numeral number, parts]
  rfl

/-- An amount of a custom item may stand in the naming token or behind it; one behind it counts where both
are there. -/
theorem lookup_item_amount {scope name written : Text} {key : Key} {item : Handle} {amount : Int}
    (scopePart : IsPart scope) (namePart : IsPart name)
    (spelled : Key.ofToken? (scope ++ ':' :: name) = some key)
    (bound : engine.registry.get? key = some item)
    (number : Number.read written = .ok (some amount)) (proper : ∀ token ∈ modifiers, IsToken token) :
    ((∀ first ∈ modifiers.head?, Number.read first = .ok none) →
      ∃ found, (engine.lookup (spaced ((scope ++ ':' :: name ++ ':' :: written) :: modifiers))).outcome =
          .ok found ∧
        engine.lookup (spaced ((scope ++ ':' :: name) :: written :: modifiers)) =
          engine.lookup (spaced ((scope ++ ':' :: name ++ ':' :: written) :: modifiers))) ∧
    ∀ first rest other, modifiers = first :: rest → Number.read first = .ok (some other) →
      ∃ found, (engine.lookup (spaced ((scope ++ ':' :: name ++ ':' :: written) :: modifiers))).outcome =
          .ok found ∧
        engine.lookup (spaced ((scope ++ ':' :: name) :: first :: rest)) =
          engine.lookup (spaced ((scope ++ ':' :: name ++ ':' :: written) :: modifiers)) := by
  have properToken : IsToken (scope ++ ':' :: name) := scopePart.2.append_colon namePart.2
  have properWritten := (Number.isPart_of_read number).2
  have notEmpty : scope ++ ':' :: name ≠ [] :=
    List.append_ne_nil_of_right_ne_nil scope (List.cons_ne_nil ':' name)
  have names := names_of_ofToken? spelled bound
  have inToken : ∀ {counted kept}, Counts amount (unpadded modifiers) counted kept →
      engine.lookup (spaced ((scope ++ ':' :: name ++ ':' :: written) :: modifiers)) =
        engine.fill ⟨.item item, counted, kept⟩ :=
    lookup_spaced (List.append_ne_nil_of_left_ne_nil notEmpty _)
      (List.forall_mem_cons.2 ⟨properToken.append_colon properWritten, proper⟩)
      (names_itemAmount spelled bound number)
  constructor
  · intro word
    rw [inToken (counts_of_word word)]
    obtain ⟨found, filled⟩ := engine.fill_outcome ⟨.item item, amount, unpadded modifiers⟩
    refine ⟨found, filled, lookup_spaced notEmpty ?_ names (counts_of_number number)⟩
    exact List.forall_mem_cons.2 ⟨properToken, List.forall_mem_cons.2 ⟨properWritten, proper⟩⟩
  · rintro first rest other rfl numberBehind
    rw [inToken (counts_of_number numberBehind)]
    obtain ⟨found, filled⟩ := engine.fill_outcome ⟨.item item, other, unpadded rest⟩
    refine ⟨found, filled, lookup_spaced notEmpty ?_ names (counts_of_number numberBehind)⟩
    exact List.forall_mem_cons.2 ⟨properToken, proper⟩

/-- An amount with a sign and with zeros before it, in front of words and of padding spaces, and the same
with another amount behind it. -/
theorem lookup_item_amount_gems :
    let engine := offering .gems BuiltIn.all
    let scope := "Vault".toList
    let name := "GEMS".toList
    let written := "+007".toList
    let words := ["sharpness:3".toList, [], "name:Hoard".toList, []]
    let other := "-12".toList
    IsPart scope ∧ IsPart name ∧ Key.ofToken? (scope ++ ':' :: name) = some CustomItem.gems.key ∧
      engine.registry.get? CustomItem.gems.key = some CustomItem.gems.handle ∧
      Number.read written = .ok (some 7) ∧ (∀ token ∈ other :: words, IsToken token) ∧
      (∀ first ∈ words.head?, Number.read first = .ok none) ∧ Number.read other = .ok (some (-12)) ∧
      (∃ found, (engine.lookup (spaced ((scope ++ ':' :: name ++ ':' :: written) :: words))).outcome =
          .ok found ∧
        engine.lookup (spaced ((scope ++ ':' :: name) :: written :: words)) =
          engine.lookup (spaced ((scope ++ ':' :: name ++ ':' :: written) :: words))) ∧
      ∃ found, (engine.lookup (spaced ((scope ++ ':' :: name ++ ':' :: written) :: other :: words))).outcome =
          .ok found ∧
        engine.lookup (spaced ((scope ++ ':' :: name) :: other :: words)) =
          engine.lookup (spaced ((scope ++ ':' :: name ++ ':' :: written) :: other :: words)) := by
  intro engine scope name written words other
  have scopePart : IsPart scope := by decide
  have namePart : IsPart name := by decide
  have spelled : Key.ofToken? (scope ++ ':' :: name) = some CustomItem.gems.key := by decide +kernel
  have bound : engine.registry.get? CustomItem.gems.key = some CustomItem.gems.handle := rfl
  have number : Number.read written = .ok (some 7) := by decide
  have numberBehind : Number.read other = .ok (some (-12)) := by decide
  have proper : ∀ token ∈ other :: words, IsToken token := by decide
  have properWords : ∀ token ∈ words, IsToken token := by decide
  have word : ∀ first ∈ words.head?, Number.read first = .ok none := by
    intro first isHead
    cases isHead
    decide
  exact ⟨scopePart, namePart, spelled, bound, number, proper, word, numberBehind,
    (lookup_item_amount scopePart namePart spelled bound number properWords).1 word,
    (lookup_item_amount scopePart namePart spelled bound number proper).2 other words (-12) rfl numberBehind⟩

/-! ### Materials -/

private theorem material?_catalogue (resolver : engine.resolve = Resolver.catalogue) (name : Text) :
    engine.material? name = Material.resolve name := by
  rw [material?, resolver, Resolver.catalogue]
  cases resolved : Material.resolve name with
  | none => rfl
  | some material =>
      have solid : material ≠ .air := by
        rintro rfl
        exact Material.resolve_ne_air name resolved
      rw [Option.filter_some, if_pos (decide_eq_true solid)]

private theorem identify_part {name : Text} (part : IsPart name) :
    engine.identify name = .ok ((engine.material? name).map fun material => (.material material, 1)) := by
  rw [identify, Text.cut_lower_of_not_mem part.1]

private theorem identify_materialAmount {name written : Text} {amount : Int} (part : IsPart name)
    (number : Number.read written = .ok (some amount))
    (unbound : engine.registry.get? (Key.of name written) = none) :
    engine.identify (name ++ ':' :: written) =
      .ok ((engine.material? (Text.lower name)).map fun material => (.material material, amount)) := by
  have sameKey : Key.of (Text.lower name) written = Key.of name written := by
    rw [Key.of, Key.of, Text.lower_lower]
  rw [identify, Number.cut_lower_append_numeral number, Text.cut_lower_of_not_mem part.1]
  simp only [List.cons_append, List.nil_append, sameKey, unbound, number, Fault.ok_map]
  cases engine.material? (Text.lower name) with
  | none => rfl
  | some material => rfl

private theorem lookup_spaced_nil {others : List Text} (proper : ∀ token ∈ others, IsToken token)
    (kept : unpadded others ≠ []) : engine.lookup (spaced ([] :: others)) = pure .nothing := by
  have properAll : ∀ token ∈ [] :: others, IsToken token :=
    List.forall_mem_cons.2 ⟨by decide, proper⟩
  rw [lookup_of_single (Text.question_not_mem_spaced properAll), lookupAlternative,
    Text.cut_spaced_cons properAll (.inr kept)]
  simp only [if_true]

private theorem lookup_spaced_material {token name : Text} {others : List Text} {named amount : Int}
    (notEmpty : token ≠ []) (proper : ∀ part ∈ token :: others, IsToken part)
    (identified : engine.identify token =
      .ok ((engine.material? name).map fun material => (.material material, named)))
    (counts : Counts named (unpadded others) amount modifiers) :
    (engine.lookup (spaced (token :: others))).outcome =
      (engine.material? name).elim (.ok .nothing) fun material =>
        (engine.fill ⟨.material material, amount, modifiers⟩).outcome := by
  cases resolved : engine.material? name with
  | some material =>
      rw [resolved] at identified
      rw [lookup_spaced notEmpty proper ((identify_eq_some_iff token _ named).1 identified) counts]
      rfl
  | none =>
      rw [resolved] at identified
      rw [lookup_of_single (Text.question_not_mem_spaced proper), lookupAlternative,
        Text.cut_spaced_cons proper (.inl notEmpty)]
      simp only [if_neg notEmpty, identified]
      rfl

private theorem fill_material_eq_nothing_iff (material : Material) (amount : Int) (modifiers : List Text) :
    (engine.fill ⟨.material material, amount, modifiers⟩).outcome = .ok .nothing ↔
      engine.GivesUp (.new (.material material)) modifiers := by
  obtain ⟨dressed?, modified⟩ := engine.modify_outcome (.new (.material material)) modifiers
  simp only [fill, Base.found, outcome_bind, modified, Fault.ok_bind, GivesUp]
  cases dressed? with
  | none => exact ⟨fun _ => rfl, fun _ => rfl⟩
  | some dressed =>
      constructor
      · intro filled
        have isNothing : engine.count dressed amount = .nothing := Except.ok.inj filled
        unfold count at isNothing
        split at isNothing
        · rw [isNothing] at modified
          cases engine.eq_object_of_modify _ _ modified
        · cases isNothing
      · intro impossible
        cases impossible

section

variable {name written : Text} {amount : Int} (part : IsPart name)
  (number : Number.read written = .ok (some amount)) (proper : ∀ token ∈ modifiers, IsToken token)

include part number proper

private theorem lookup_amount_within (unbound : engine.registry.get? (Key.of name written) = none)
    (word : ∀ first ∈ modifiers.head?, Number.read first = .ok none) :
    (engine.lookup (spaced ((name ++ ':' :: written) :: modifiers))).outcome =
      (engine.material? (Text.lower name)).elim (.ok .nothing) fun material =>
        (engine.fill ⟨.material material, amount, unpadded modifiers⟩).outcome := by
  have properToken : IsToken (name ++ ':' :: written) :=
    part.2.append_colon (Number.isPart_of_read number).2
  exact lookup_spaced_material (List.append_ne_nil_of_right_ne_nil name (List.cons_ne_nil ':' written))
    (List.forall_mem_cons.2 ⟨properToken, proper⟩) (identify_materialAmount part number unbound)
    (counts_of_word word)

private theorem lookup_amount_behind (nameless : engine.material? [] = none) :
    (engine.lookup (spaced (name :: written :: modifiers))).outcome =
      (engine.material? name).elim (.ok .nothing) fun material =>
        (engine.fill ⟨.material material, amount, unpadded modifiers⟩).outcome := by
  have properBehind : ∀ token ∈ written :: modifiers, IsToken token :=
    List.forall_mem_cons.2 ⟨(Number.isPart_of_read number).2, proper⟩
  by_cases isEmpty : name = []
  · have kept : unpadded (written :: modifiers) ≠ [] := by
      rw [Text.unpadded_cons (.inl (Number.inert_of_read number).1)]
      exact List.cons_ne_nil _ _
    rw [isEmpty, lookup_spaced_nil properBehind kept, nameless]
    rfl
  · exact lookup_spaced_material isEmpty (List.forall_mem_cons.2 ⟨part.2, properBehind⟩)
      (identify_part part) (counts_of_number number)

end

/-- An amount of a material may stand in the naming token or behind it. Where the name has a Kelvin sign,
only the token with the amount in it names the material of the lower case; everywhere else the two forms
find the same. -/
theorem lookup_material_amount {name written : Text} {amount : Int}
    (resolver : engine.resolve = Resolver.catalogue) (part : IsPart name)
    (number : Number.read written = .ok (some amount))
    (unbound : engine.registry.get? (Key.of name written) = none)
    (proper : ∀ token ∈ modifiers, IsToken token)
    (word : ∀ first ∈ modifiers.head?, Number.read first = .ok none) :
    ∃ found, (engine.lookup (spaced ((name ++ ':' :: written) :: modifiers))).outcome = .ok found ∧
      (engine.lookup (spaced (name :: written :: modifiers))).outcome =
        .ok (if kelvinSign ∈ name then .nothing else found) ∧
      (found = .nothing ↔ ∀ material, Material.resolve (Text.lower name) = some material →
        engine.GivesUp (.new (.material material)) (unpadded modifiers)) := by
  have within := lookup_amount_within part number proper unbound word
  have behind := lookup_amount_behind part number proper (material?_catalogue resolver [])
  rw [material?_catalogue resolver] at within behind
  have gaveUp : (engine.lookup (spaced ((name ++ ':' :: written) :: modifiers))).outcome = .ok .nothing ↔
      ∀ material, Material.resolve (Text.lower name) = some material →
        engine.GivesUp (.new (.material material)) (unpadded modifiers) := by
    rw [within]
    cases Material.resolve (Text.lower name) with
    | none => exact ⟨fun _ => nofun, fun _ => rfl⟩
    | some material =>
        simp only [Option.elim_some, fill_material_eq_nothing_iff, Option.some.injEq, forall_eq']
  obtain ⟨found, looked⟩ : ∃ found,
      (engine.lookup (spaced ((name ++ ':' :: written) :: modifiers))).outcome = .ok found := by
    rw [within]
    cases Material.resolve (Text.lower name) with
    | none => exact ⟨_, rfl⟩
    | some material => exact engine.fill_outcome _
  rw [looked, Except.ok.injEq] at gaveUp
  refine ⟨found, looked, ?_, gaveUp⟩
  rw [behind]
  split
  · rename_i member
    rw [Material.resolve_of_kelvinSign member]
    rfl
  · rename_i noKelvin
    rw [← Material.resolve_lower noKelvin, ← within, looked]

/-- The Kelvin sign at the end of a stick. -/
theorem lookup_material_amount_stick :
    let engine := offering .gems [.flag, .displayName]
    let name := "stic".toList ++ [kelvinSign]
    let written := "-03".toList
    let modifiers := [[], "name:Hoard".toList, "12".toList, []]
    engine.resolve = Resolver.catalogue ∧ IsPart name ∧ Number.read written = .ok (some (-3)) ∧
      engine.registry.get? (Key.of name written) = none ∧ (∀ token ∈ modifiers, IsToken token) ∧
      (∀ first ∈ modifiers.head?, Number.read first = .ok none) ∧
      ∃ found, (engine.lookup (spaced ((name ++ ':' :: written) :: modifiers))).outcome = .ok found ∧
        (engine.lookup (spaced (name :: written :: modifiers))).outcome =
          .ok (if kelvinSign ∈ name then .nothing else found) ∧
        (found = .nothing ↔ ∀ material, Material.resolve (Text.lower name) = some material →
          engine.GivesUp (.new (.material material)) (unpadded modifiers)) := by
  intro engine name written modifiers
  have part : IsPart name := by decide
  have number : Number.read written = .ok (some (-3)) := by decide
  have unbound : engine.registry.get? (Key.of name written) = none := by
    rw [show engine.registry = Registry.empty.insert CustomItem.gems.key CustomItem.gems.handle from rfl,
      Registry.get?_insert, if_neg (by decide)]
    rfl
  have proper : ∀ token ∈ modifiers, IsToken token := by decide
  have word : ∀ first ∈ modifiers.head?, Number.read first = .ok none := by
    intro first isHead
    cases isHead
    decide
  exact ⟨rfl, part, number, unbound, proper, word,
    lookup_material_amount rfl part number unbound proper word⟩

/-- With a Kelvin sign in the name the sticks are found in the one form and not in the other. -/
theorem lookup_material_amount_differs :
    let engine : Engine := { parsers := BuiltIn.all.map BuiltIn.parser }
    let name := "STIC".toList ++ [kelvinSign]
    let written := "5".toList
    engine.resolve = Resolver.catalogue ∧ IsPart name ∧ Number.read written = .ok (some 5) ∧
      engine.registry.get? (Key.of name written) = none ∧
      (engine.lookup (spaced [name ++ ':' :: written])).outcome.map (fun found => found.matcher.isEmpty) =
        .ok false ∧
      (engine.lookup (spaced [name, written])).outcome.map (fun found => found.matcher.isEmpty) =
        .ok true := by
  intro engine name written
  have within : (engine.lookup (spaced [name ++ ':' :: written])).outcome.map
      (fun found => found.matcher.isEmpty) = .ok false := by
    decide
  have behind : (engine.lookup (spaced [name, written])).outcome.map
      (fun found => found.matcher.isEmpty) = .ok true := by
    decide
  exact ⟨rfl, by decide, by decide, rfl, within, behind⟩

end ItemSpec.Engine
