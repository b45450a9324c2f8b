import ItemSpec.Proofs.Engine.Genuine
import ItemSpec.Proofs.Modifier.Tokens
set_option autoImplicit false

/-! Whether a matcher accepts its own representative. The amount and the modifiers always do; what they
write over the representative is put before the test of a custom item again, and that alone decides. -/

namespace ItemSpec

structure Stack.Alike (stack other : Stack) : Prop where
  material : stack.material = other.material
  lore : stack.meta?.map Meta.lore = other.meta?.map Meta.lore
  tags : stack.meta?.map Meta.tags = other.meta?.map Meta.tags

/-- The definition reads nothing of a stack but its material, lore and tags. -/
def Definition.Robust (definition : Definition) : Prop :=
  ∀ stack other, stack.Alike other → definition.accepts stack = definition.accepts other

example (key : Text) (value? : Option Text) :
    (Definition.test (Condition.tag key value?).test).Robust := by
  intro stack other alike
  show Test.ofData _ _ (.stack stack) = Test.ofData _ _ (.stack other)
  rw [Test.ofData_stack, Test.ofData_stack]
  have same := congrArg (Option.any fun tags => decide (tags.find? key = value?)) alike.tags
  rw [Option.any_map, Option.any_map] at same
  exact congrArg Except.ok same

private theorem Base.Genuine.accepts_own {base : Base} (genuine : base.Genuine) :
    base.found.matcher.accepts base.found.matcher.representative = .ok true := by
  cases genuine with
  | @material material solid =>
      show (Matcher.material material).accepts (Stack.of material) = .ok true
      rw [Matcher.accepts_material, Stack.of, Stack.settle_material, decide_eq_true rfl]
  | item item => exact item.accepts_own

namespace Engine

open Modifier (BuiltIn Passes)

namespace Order

variable (order : Order) (kinds : List BuiltIn) (stack : Stack)

private theorem edit_alike : (order.edit kinds stack).Alike stack where
  material := rfl
  lore := by
    unfold edit
    cases stack.meta? with
    | none => rfl
    | some data => exact congrArg some (BuiltIn.writeAll_lore_tags kinds order.modifiers data).1
  tags := by
    unfold edit
    cases stack.meta? with
    | none => rfl
    | some data => exact congrArg some (BuiltIn.writeAll_lore_tags kinds order.modifiers data).2

private theorem edit_of_plain (one : order.amount = 1) (plain : order.modifiers = []) :
    order.edit kinds stack = stack := by
  have unwritten : BuiltIn.writeAll kinds [] = id := funext fun data => BuiltIn.writeAll_nil kinds data
  simp only [edit, one, if_true, plain, unwritten, Option.map_id_fun, id_eq]

private theorem passes_edit {data : Meta} (readable : stack.meta? = some data) :
    ∀ kind ∈ kinds, Passes order.modifiers (order.edit kinds stack) kind := by
  intro kind member request asked
  refine ⟨BuiltIn.writeAll kinds order.modifiers data, ?_, ?_⟩
  · simp only [edit, readable, Option.map_some]
  · exact BuiltIn.satisfied_writeAll kinds order.modifiers data kind member request asked

private theorem policy_accepts_edit (policy : StackPolicy) (several : order.amount ≠ 1) :
    policy.accepts (order.edit kinds stack).amount order.amount = true := by
  simp only [edit, if_neg several]
  exact policy.accepts_self order.amount

end Order

variable {engine : Engine} {kinds : List BuiltIn} {order : Order} {found : Found}

private theorem Fills.accepts_representative (fills : engine.Fills kinds order found) :
    found.matcher.accepts found.matcher.representative =
      order.base.found.matcher.accepts found.matcher.representative := by
  obtain ⟨data, readable⟩ := fills.genuine.readable
  rw [fills.accepts, fills.representative]
  obtain ⟨met, tested, metIff⟩ := BuiltIn.all_added_ok kinds order.modifiers
    (order.edit kinds order.base.found.matcher.representative)
  have allMet : met = true :=
    metIff.2 (order.passes_edit kinds order.base.found.matcher.representative readable)
  have enough : (decide (order.amount = 1) || engine.policy.accepts
      (order.edit kinds order.base.found.matcher.representative).amount order.amount) = true := by
    rw [Bool.or_eq_true, decide_eq_true_eq]
    exact (Decidable.em (order.amount = 1)).imp_right
      (order.policy_accepts_edit kinds order.base.found.matcher.representative engine.policy)
  rw [tested, allMet, enough, Verdict.both_ok_true, Verdict.both_ok_true]

/-- What reflexivity depends on, for an order and the matcher that it comes to. -/
structure Reflects (engine : Engine) (kinds : List BuiltIn) (order : Order) (matcher : Matcher) :
    Prop where
  asBase : matcher.accepts matcher.representative =
    order.base.found.matcher.accepts matcher.representative
  amount : order.amount ≠ 1 →
    engine.policy.accepts matcher.representative.amount order.amount = true
  modifiers : ∀ kind ∈ kinds, Passes order.modifiers matcher.representative kind
  material : ∀ material, order.base = .material material →
    matcher.accepts matcher.representative = .ok true
  unmodified : order.amount = 1 → order.modifiers = [] →
    matcher.accepts matcher.representative = .ok true
  unchanged : matcher.representative = order.base.found.matcher.representative →
    matcher.accepts matcher.representative = .ok true
  robust : ∀ item : CustomItem, order.base = .item item.handle → item.definition.Robust →
    matcher.accepts matcher.representative = .ok true

theorem Fills.reflects (fills : engine.Fills kinds order found) :
    engine.Reflects kinds order found.matcher := by
  have asBase := fills.accepts_representative
  have own := fills.genuine.accepts_own
  have shown := fills.representative
  have unchanged : found.matcher.representative = order.base.found.matcher.representative →
      found.matcher.accepts found.matcher.representative = .ok true := by
    intro same
    rw [asBase, same, own]
  obtain ⟨data, readable⟩ := fills.genuine.readable
  exact {
    asBase
    unchanged
    amount := by
      rw [shown]
      exact order.policy_accepts_edit kinds _ engine.policy
    modifiers := by
      rw [shown]
      exact order.passes_edit kinds _ readable
    material := by
      intro material isMaterial
      rw [asBase, shown, ← own, isMaterial]
      rfl
    unmodified := fun one plain => unchanged (shown.trans (order.edit_of_plain kinds _ one plain))
    robust := by
      intro item isItem robust
      rw [asBase, shown, ← own, isItem]
      show item.toMatcher.accepts _ = item.toMatcher.accepts _
      rw [item.accepts_toMatcher]
      exact robust _ _ (order.edit_alike kinds _) }

/-- A matcher judges its own representative as what the spec names does. -/
theorem lookup_reflects {spec : Text} (parsers : engine.parsers = kinds.map BuiltIn.parser)
    (customs : engine.registry.Genuine) (looked : (engine.lookup spec).outcome = .ok found)
    (notEmpty : found.matcher.isEmpty = false) :
    ∃ order, (∀ other, engine.Orders spec found other ↔ other = order) ∧
      engine.Reflects kinds order found.matcher := by
  obtain ⟨order, orders, fills⟩ := lookup_fills parsers customs looked notEmpty
  exact ⟨order, orders.iff_eq notEmpty, fills.reflects⟩

/-- A name asked for twice over, and less than the item's own test wants. -/
theorem lookup_reflects_gems :
    let kinds := [BuiltIn.displayName, .enchantment, .displayName]
    let engine := offering .gems kinds
    let spec := "air?vault:gems -3 name:Hoard Sharpness:2?paper".toList
    ∃ found, (engine.lookup spec).outcome = .ok found ∧ found.matcher.isEmpty = false ∧
      ∃ order, (∀ other, engine.Orders spec found other ↔ other = order) ∧
        engine.Reflects kinds order found.matcher := by
  intro kinds engine spec
  have finds : engine.finds spec (fun _ => true) = true := by decide +kernel
  obtain ⟨found, looked, notEmpty, _⟩ := (finds_eq_true_iff spec _).1 finds
  exact ⟨found, looked, notEmpty,
    lookup_reflects rfl (offering_genuine .gems kinds) looked notEmpty⟩

/-- Exactly where a matcher accepts its own representative: a custom item that the spec names has to
accept its own stack in the amount and with the metadata that were asked for. -/
theorem lookup_reflexive_iff {spec : Text} (parsers : engine.parsers = kinds.map BuiltIn.parser)
    (customs : engine.registry.Genuine) (looked : (engine.lookup spec).outcome = .ok found)
    (notEmpty : found.matcher.isEmpty = false) :
    ∃ order, (∀ other, engine.Orders spec found other ↔ other = order) ∧
      (found.matcher.accepts found.matcher.representative = .ok true ↔
        ∀ item : CustomItem, order.base = .item item.handle →
          item.definition.accepts (order.edit kinds item.item) = .ok true) := by
  obtain ⟨order, orders, fills⟩ := lookup_fills parsers customs looked notEmpty
  refine ⟨order, orders.iff_eq notEmpty, ?_⟩
  have reflects := fills.reflects
  have ofItem : ∀ item : CustomItem, order.base = .item item.handle →
      found.matcher.accepts found.matcher.representative =
        item.definition.accepts (order.edit kinds item.item) := by
    intro item isItem
    rw [reflects.asBase, fills.representative, isItem]
    show item.toMatcher.accepts (order.edit kinds item.toMatcher.representative) = _
    rw [item.accepts_toMatcher, item.representative_toMatcher]
  constructor
  · intro reflexive item isItem
    rw [← ofItem item isItem, reflexive]
  · intro every
    cases base : order.base with
    | material material => exact reflects.material material base
    | item handle =>
        have genuine := fills.genuine
        rw [base] at genuine
        cases genuine with
        | item item => rw [ofItem item base, every item base]

theorem lookup_reflexive_iff_gems :
    let kinds := BuiltIn.all
    let engine := offering .gems kinds
    let spec := "paper:x?vault:gems:6 unbreakable".toList
    ∃ found, (engine.lookup spec).outcome = .ok found ∧ found.matcher.isEmpty = false ∧
      ∃ order, (∀ other, engine.Orders spec found other ↔ other = order) ∧
        (found.matcher.accepts found.matcher.representative = .ok true ↔
          ∀ item : CustomItem, order.base = .item item.handle →
            item.definition.accepts (order.edit kinds item.item) = .ok true) := by
  intro kinds engine spec
  have finds : engine.finds spec (fun _ => true) = true := by decide +kernel
  obtain ⟨found, looked, notEmpty, _⟩ := (finds_eq_true_iff spec _).1 finds
  exact ⟨found, looked, notEmpty,
    lookup_reflexive_iff rfl (offering_genuine .gems kinds) looked notEmpty⟩

/-- Gems are never fewer than five, yet two of them are shown for an order of two. -/
theorem lookup_not_reflexive :
    let engine := offering .gems BuiltIn.all
    let spec := "vault:gems 2".toList
    (∀ stack, ∃ verdict, CustomItem.gems.definition.accepts stack = .ok verdict) ∧
      ∃ found, (engine.lookup spec).outcome = .ok found ∧ found.matcher.isEmpty = false ∧
        found.matcher.accepts found.matcher.representative = .ok false := by
  intro engine spec
  have rejected : engine.finds spec
      (fun matcher => decide (matcher.accepts matcher.representative = .ok false)) = true := by
    decide +kernel
  obtain ⟨found, looked, notEmpty, decided⟩ := (finds_eq_true_iff spec _).1 rejected
  exact ⟨fun stack => ⟨_, rfl⟩, found, looked, notEmpty, of_decide_eq_true decided⟩

end Engine

end ItemSpec
