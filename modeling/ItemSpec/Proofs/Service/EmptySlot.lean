import ItemSpec.Proofs.Service.Consistency
set_option autoImplicit false

/-! Empty slots. No spec names air, but air may be held against a spec. A material never matches it; a custom
item asks its own test, as it does of any other stack. -/

namespace ItemSpec

private theorem Base.accepts_item (item : CustomItem) (stack : Stack) :
    (Base.item item.handle).found.matcher.accepts stack = item.definition.accepts stack :=
  congrFun item.accepts_toMatcher stack

private theorem Base.meta?_item (item : CustomItem) :
    (Base.item item.handle).found.matcher.representative.meta? = item.item.meta? :=
  congrArg Stack.meta? item.representative_toMatcher

namespace Engine

open Modifier (Answers Reply)

/-- A spec lets a stack pass for the sake of a custom item that it names: the item's own test accepts the stack,
every reply of a parser does, and so does the policy if an amount is asked for. -/
inductive Admits (engine : Engine) (spec : Text) (stack : Stack) : Prop where
  | intro {alternative : Text} {order : Order} {item : CustomItem} {before after : Meta} {replies : List Reply}
      (reached : engine.Reaches spec alternative) (reads : engine.Reads alternative order)
      (isItem : order.base = .item item.handle) (readable : item.item.meta? = some before)
      (answers : Answers order.modifiers engine.parsers before replies after)
      (own : item.definition.accepts stack = .ok true)
      (asked : ∀ reply ∈ replies, reply.predicate (.stack stack) = .ok true)
      (counted : order.amount ≠ 1 → engine.policy.accepts stack.amount order.amount = true)

variable {engine : Engine}

private theorem Admits.accepts {spec : Text} {stack : Stack} (admits : engine.Admits spec stack) :
    ∃ found, (engine.lookup spec).outcome = .ok found ∧ found.matcher.accepts stack = .ok true := by
  obtain @⟨alternative, order, item, before, after, replies, reached, reads, isItem, readable, answers, own,
    asked, counted⟩ := admits
  have shown : order.base.found.matcher.representative.meta? = some before := by
    rw [isItem, Base.meta?_item, readable]
  have looked := (congrArg Traced.outcome (lookupAlternative_of_reads reads)).trans
    (fill_of_answers shown answers)
  have accepted := (engine.accepts_count_iff _ order.amount stack).2
    ⟨(accepts_dress_iff order.base.found answers stack).2 ⟨by rw [isItem, Base.accepts_item, own], asked⟩,
      counted⟩
  have ends : Ends (.ok (engine.count (dress order.base.found (replies.flatMap Reply.added) before after)
      order.amount)) := fun _ same => Except.ok.inj same ▸ Matcher.notEmpty_of_accepts accepted
  exact ⟨_, (lookup_outcome_iff ends spec).2 ⟨alternative, reached, looked⟩, accepted⟩

section Air

variable {stack : Stack} (isAir : stack.material = .air)

include isAir

private theorem accepts_material_of_air {material : Material} (solid : material ≠ .air) :
    (Base.material material).found.matcher.accepts stack = .ok false := by
  show (Matcher.material material).accepts stack = _
  rw [Matcher.accepts_material, isAir, decide_eq_false (Ne.symm solid)]

variable (customs : engine.registry.Genuine)

include customs

private theorem accepts_air_iff (spec : Text) :
    (∃ found, (engine.lookup spec).outcome = .ok found ∧ found.matcher.accepts stack = .ok true) ↔
      engine.Admits spec stack := by
  refine ⟨?_, Admits.accepts⟩
  rintro ⟨found, looked, accepted⟩
  obtain ⟨order, dressed, orders, modified, rfl⟩ :=
    lookup_orders looked (Matcher.notEmpty_of_accepts accepted)
  have genuine := orders.genuine customs
  obtain ⟨before, readable⟩ := genuine.readable
  obtain ⟨replies, after, answers, rfl⟩ := (engine.modify_eq_some_iff _ _ readable dressed).1 modified
  obtain ⟨acceptedDressed, counted⟩ := (engine.accepts_count_iff _ _ _).1 accepted
  obtain ⟨own, asked⟩ := (accepts_dress_iff _ answers stack).1 acceptedDressed
  obtain ⟨reached, _, reads⟩ := orders
  generalize isBase : order.base = base at genuine readable own
  cases genuine with
  | material solid => cases own.symm.trans (accepts_material_of_air isAir solid)
  | item item =>
      rw [Base.meta?_item] at readable
      rw [Base.accepts_item] at own
      exact .intro reached reads isBase readable answers own asked counted

/-- Where every custom item refuses it, air matches nothing. -/
theorem refuses_air (refused : ∀ key item, engine.registry.get? key = some item →
      item.matcher.accepts stack = .ok false) {spec : Text} {found : Found}
    (looked : (engine.lookup spec).outcome = .ok found) : found.matcher.accepts stack = .ok false := by
  cases isEmpty : found.matcher.isEmpty with
  | true => exact Matcher.accepts_of_isEmpty isEmpty stack
  | false =>
      obtain ⟨order, dressed, orders, modified, rfl⟩ := lookup_orders looked isEmpty
      have genuine := orders.genuine customs
      obtain ⟨before, readable⟩ := genuine.readable
      obtain ⟨replies, after, _, rfl⟩ := (engine.modify_eq_some_iff _ _ readable dressed).1 modified
      obtain ⟨_, _, reads⟩ := orders
      have refusedBase : order.base.found.matcher.accepts stack = .ok false := by
        generalize isBase : order.base = base at genuine
        cases genuine with
        | material solid => exact accepts_material_of_air isAir solid
        | item item =>
            obtain ⟨key, bound⟩ := reads.bound isBase
            exact refused key item.handle bound
      rw [accepts_count, accepts_dress, refusedBase]
      rfl

end Air

end Engine

namespace Service

open Modifier (BuiltIn)

/-- Air is matched by a custom item whose own test accepts it, if the modifiers and the amount do not keep it
out, and by nothing else. A request to match air, in whatever case it is written, is answered so. -/
theorem lookup_accepts_air_iff (engine : Engine) (customs : engine.registry.Genuine) (spec : Text)
    {stack : Stack} (isAir : stack.material = .air) :
    ((∃ found, (engine.lookup spec).outcome = .ok found ∧ found.matcher.accepts stack = .ok true) ↔
        engine.Admits spec stack) ∧
      ((∀ key item, engine.registry.get? key = some item → item.matcher.accepts stack = .ok false) →
        ∀ found, (engine.lookup spec).outcome = .ok found → found.matcher.accepts stack = .ok false) ∧
      ∀ (offer : Request) item form, offer.Offers spec item →
        StackForm.check [.field "body".toList, .field "item".toList] item = .sound form →
        Text.upper form.material = Material.air.name → form.toStack .air = stack →
        ∀ verdict, (respond (some engine) offer).Says "matches" (.bool verdict) ↔
          ∃ found, (engine.lookup spec).outcome = .ok found ∧ found.matcher.accepts stack = .ok verdict := by
  refine ⟨Engine.accepts_air_iff isAir customs spec, fun refused found looked =>
    Engine.refuses_air isAir customs refused looked, ?_⟩
  rintro offer item form offers sound named rfl verdict
  have known : material? engine form.material = some .air := if_pos named
  rw [respond_matching offers sound, judge_says_iff known]

/-- Four of air against gems, which ask for five of anything. -/
theorem lookup_accepts_air_iff_gems :
    let engine := Engine.offering .gems BuiltIn.all
    let spec := "opal?Vault:Gems 2 flag:hide_dye".toList
    let item : Json := .object [("material".toList, .text "aIr".toList), ("amount".toList, .integer 4)]
    let offer : Request :=
      { method := "POST".toList, path := "/items/match".toList,
        body? := some (.object [("spec".toList, .text spec), ("item".toList, item)]) }
    engine.registry.Genuine ∧ ¬engine.Admits spec (.of .air 4) ∧
      (respond (some engine) offer).Says "matches" (.bool false) := by
  intro engine spec item offer
  have customs : engine.registry.Genuine := Engine.offering_genuine .gems BuiltIn.all
  have isAir : (Stack.of .air 4).material = .air := rfl
  obtain ⟨admitted, refused, said⟩ := lookup_accepts_air_iff engine customs spec isAir
  have refuses : ∀ key item, engine.registry.get? key = some item →
      item.matcher.accepts (.of .air 4) = .ok false := by
    intro key item bound
    rw [show engine.registry = Registry.empty.insert CustomItem.gems.key CustomItem.gems.handle from rfl,
      Registry.get?_insert] at bound
    split at bound
    · rw [← Option.some.inj bound]
      rfl
    · cases bound
  have finds : engine.finds spec (fun _ => true) = true := by decide +kernel
  obtain ⟨found, looked, _, _⟩ := (Engine.finds_eq_true_iff spec _).1 finds
  have offers : offer.Offers spec item :=
    ⟨rfl, (by decide +kernel : Text.upper "POST".toList = "POST".toList), _, rfl, rfl, rfl⟩
  have upper : Text.upper "aIr".toList = Material.air.name := by decide +kernel
  refine ⟨customs, fun admits => ?_, ?_⟩
  · obtain ⟨other, lookedOther, accepted⟩ := admitted.2 admits
    cases accepted.symm.trans (refused refuses other lookedOther)
  · exact (said offer item { material := "aIr".toList, amount := 4 } offers rfl upper rfl false).2
      ⟨found, looked, refused refuses found looked⟩

/-- Five of air are gems. -/
theorem match_air_with_gems :
    let engine := Engine.offering .gems BuiltIn.all
    let spec := "vault:gems".toList
    let item : Json := .object [("material".toList, .text "Air".toList), ("amount".toList, .integer 5)]
    let offer : Request :=
      { method := "POST".toList, path := "/items/match".toList,
        body? := some (.object [("spec".toList, .text spec), ("item".toList, item)]) }
    engine.registry.Genuine ∧
      (∃ found, (engine.lookup spec).outcome = .ok found ∧ found.matcher.accepts (.of .air 5) = .ok true) ∧
      (respond (some engine) offer).Says "matches" (.bool true) := by
  intro engine spec item offer
  have finds : engine.finds spec (fun matcher => decide (matcher.accepts (.of .air 5) = .ok true)) = true := by
    decide +kernel
  have offers : offer.Offers spec item :=
    ⟨rfl, (by decide +kernel : Text.upper "POST".toList = "POST".toList), _, rfl, rfl, rfl⟩
  have accepted : ∃ found, (engine.lookup spec).outcome = .ok found ∧
      found.matcher.accepts (.of .air 5) = .ok true := by
    obtain ⟨found, looked, _, decided⟩ := (Engine.finds_eq_true_iff spec _).1 finds
    exact ⟨found, looked, of_decide_eq_true decided⟩
  have sound : StackForm.check [.field "body".toList, .field "item".toList] item =
      .sound { material := "Air".toList, amount := 5 } := rfl
  have known : material? engine "Air".toList = some .air := by decide +kernel
  refine ⟨Engine.offering_genuine .gems BuiltIn.all, accepted, ?_⟩
  rw [respond_matching offers sound]
  exact (judge_says_iff known true).2 accepted

end Service

end ItemSpec
