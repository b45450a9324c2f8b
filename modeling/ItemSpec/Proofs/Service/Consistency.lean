import ItemSpec.Proofs.Engine.Language
import ItemSpec.Proofs.Engine.Reflexivity
import ItemSpec.Proofs.Item.MaterialName
import ItemSpec.Proofs.Service.RoundTrip
import ItemSpec.Service.Endpoint
set_option autoImplicit false

/-! Looking a spec up and matching against it agree: the item that is shown for a spec matches it, and what
names no item is matched by none. -/

namespace ItemSpec

namespace Engine

variable {engine : Engine}

/-- Where nothing is registered, an alternative can only name a material. -/
theorem Reads.names_material {alternative : Text} {order : Order} (reads : engine.Reads alternative order)
    (noItems : engine.registry = .empty) : ∃ material, order.base = .material material := by
  have unbound : ∀ key, engine.registry.get? key = none := fun key => by rw [noItems]; rfl
  cases reads with
  | intro tokens notEmpty names counts =>
      cases names with
      | material parts resolved solid => exact ⟨_, rfl⟩
      | item parts bound => cases (unbound _).symm.trans bound
      | materialAmount parts unbound resolved solid number => exact ⟨_, rfl⟩
      | itemAmount parts bound number => cases (unbound _).symm.trans bound

private theorem lookup_reflexive_of_no_items {kinds : List Modifier.BuiltIn} {spec : Text} {found : Found}
    (parsers : engine.parsers = kinds.map Modifier.BuiltIn.parser) (noItems : engine.registry = .empty)
    (looked : (engine.lookup spec).outcome = .ok found) (notEmpty : found.matcher.isEmpty = false) :
    found.matcher.accepts found.matcher.representative = .ok true := by
  have customs : engine.registry.Genuine := noItems ▸ Registry.genuine_empty
  obtain ⟨order, ⟨_, _, reads⟩, fills⟩ := lookup_fills parsers customs looked notEmpty
  obtain ⟨material, isMaterial⟩ := reads.names_material noItems
  exact fills.reflects.material material isMaterial

end Engine

private theorem Settings.engine_parsers (settings : Settings) :
    ∃ kinds : List Modifier.BuiltIn, settings.engine.parsers = kinds.map Modifier.BuiltIn.parser := by
  cases defaults : settings.defaultParsers with
  | true => exact ⟨Modifier.BuiltIn.all, by simp [engine, defaults]⟩
  | false => exact ⟨[], by simp [engine, defaults]⟩

namespace Service

structure Request.AsksFor (request : Request) (spec : Text) : Prop where
  path : Endpoint.ofPath? request.path = some .lookup
  method : Text.upper request.method = Endpoint.lookup.method
  spec : parameter? request "spec".toList = some spec

structure Request.Offers (request : Request) (spec : Text) (item : Json) : Prop where
  path : Endpoint.ofPath? request.path = some .matching
  method : Text.upper request.method = Endpoint.matching.method
  body : ∃ members, request.body? = some (.object members) ∧
    (Json.object members).member? "spec".toList = some (.text spec) ∧
    (Json.object members).member? "item".toList = some item

def Response.Says (response : Response) (name : String) (value : Json) : Prop :=
  ∃ body, response = .json 200 body ∧ body.member? name.toList = some value

variable {engine : Engine} {spec : Text} {found : Found}

private theorem respond_lookup {ask : Request} (asks : ask.AsksFor spec) :
    respond (some engine) ask = lookup engine spec := by
  simp only [respond, asks.path, if_pos asks.method, answer, asks.spec]

theorem respond_matching {offer : Request} {item : Json} {form : StackForm} (offers : offer.Offers spec item)
    (sound : StackForm.check [.field "body".toList, .field "item".toList] item = .sound form) :
    respond (some engine) offer = judge engine ⟨spec, form⟩ := by
  obtain ⟨members, body, heldSpec, heldItem⟩ := offers.body
  have checked : MatchForm.check [.field "body".toList] (.object members) = .sound ⟨spec, form⟩ :=
    MatchForm.check_of_members heldSpec heldItem sound
  simp only [respond, offers.path, if_pos offers.method, answer, body, checked]

private theorem says_resolved_iff (resolved : Bool) :
    (lookup engine spec).Says "resolved" (.bool resolved) ↔
      ∃ found, (engine.lookup spec).outcome = .ok found ∧ found.matcher.isEmpty = !resolved := by
  unfold lookup
  cases looked : (engine.lookup spec).outcome with
  | error fault =>
      constructor
      · rintro ⟨body, broken, _⟩
        cases broken
      · rintro ⟨found, impossible, _⟩
        cases impossible
  | ok found =>
      constructor
      · rintro ⟨body, answered, held⟩
        cases answered
        have same : some (Json.bool (!found.matcher.isEmpty)) = some (.bool resolved) := held
        cases same
        exact ⟨found, rfl, (Bool.not_not _).symm⟩
      · rintro ⟨found, same, isEmpty⟩
        cases same
        exact ⟨_, rfl, by rw [isEmpty, Bool.not_not]; rfl⟩

private theorem says_item_iff (looked : (engine.lookup spec).outcome = .ok found)
    (notEmpty : found.matcher.isEmpty = false) (item : Json) :
    (lookup engine spec).Says "item" item ↔ item = found.matcher.representative.toJson := by
  simp only [lookup, looked, notEmpty]
  constructor
  · rintro ⟨body, answered, held⟩
    cases answered
    exact (Option.some.inj held).symm
  · rintro rfl
    exact ⟨_, rfl, rfl⟩

theorem judge_says_iff {form : StackForm} {material : Material}
    (known : material? engine form.material = some material) (verdict : Bool) :
    (judge engine ⟨spec, form⟩).Says "matches" (.bool verdict) ↔
      ∃ found, (engine.lookup spec).outcome = .ok found ∧
        found.matcher.accepts (form.toStack material) = .ok verdict := by
  have broken : ¬Response.broken.Says "matches" (.bool verdict) := by
    rintro ⟨body, answered, _⟩
    cases answered
  simp only [judge, known]
  cases looked : (engine.lookup spec).outcome with
  | error fault =>
      refine iff_of_false broken ?_
      rintro ⟨found, impossible, _⟩
      cases impossible
  | ok found =>
      simp only [Except.ok.injEq, exists_eq_left']
      cases judged : found.matcher.accepts (form.toStack material) with
      | error fault => exact iff_of_false broken nofun
      | ok held =>
          constructor
          · rintro ⟨body, answered, said⟩
            cases answered
            have same : some (Json.bool held) = some (.bool verdict) := said
            cases same
            rfl
          · intro same
            cases same
            exact ⟨_, rfl, rfl⟩

theorem material?_name (catalogued : engine.resolve = Resolver.catalogue) (material : Material) :
    material? engine material.name = some material := by
  unfold material?
  rw [material.upper_name, catalogued]
  split
  · rename_i isAir
    exact congrArg some (Material.name_injective isAir).symm
  · rename_i notAir
    exact Material.resolve_name fun same => notAir (congrArg Material.name same)

/-- A spec without long runs of digits is resolved or not; if it is, an item is shown that matches it, and if
it is not, nothing does. -/
theorem lookup_agrees_with_matching (settings : Settings) {ask : Request} (asks : ask.AsksFor spec) :
    let answers := respond (some settings.engine)
    (Text.Brief spec → ∃ resolved, (answers ask).Says "resolved" (.bool resolved)) ∧
    ((answers ask).Says "resolved" (.bool true) → (∃ item, (answers ask).Says "item" item) ∧
      ∀ item, (answers ask).Says "item" item →
        ∀ offer : Request, offer.Offers spec item → (answers offer).Says "matches" (.bool true)) ∧
    ((answers ask).Says "resolved" (.bool false) →
      ∀ (offer : Request) item form material, offer.Offers spec item →
        StackForm.check [.field "body".toList, .field "item".toList] item = .sound form →
        material? settings.engine form.material = some material →
        (answers offer).Says "matches" (.bool false)) := by
  intro answers
  simp only [answers, respond_lookup asks, says_resolved_iff]
  refine ⟨?_, ?_, ?_⟩
  · intro brief
    obtain ⟨found, looked⟩ : ∃ found, (settings.engine.lookup spec).outcome = .ok found :=
      Engine.lookup_of_brief brief
    exact ⟨!found.matcher.isEmpty, found, looked, (Bool.not_not _).symm⟩
  · rintro ⟨found, looked, notEmpty⟩
    refine ⟨⟨_, (says_item_iff looked notEmpty _).2 rfl⟩, fun item shown offer offers => ?_⟩
    cases (says_item_iff looked notEmpty item).1 shown
    rw [respond_matching offers (Stack.check_toJson _ _)]
    obtain ⟨kinds, parsers⟩ := settings.engine_parsers
    refine (judge_says_iff (material?_name rfl _) true).2 ⟨found, looked, ?_⟩
    rw [StackForm.toStack_ofStack, Stack.settle_of_settled found.matcher.representative_settled]
    exact Engine.lookup_reflexive_of_no_items parsers rfl looked notEmpty
  · rintro ⟨found, looked, isEmpty⟩ offer item form material offers sound known
    rw [respond_matching offers sound]
    exact (judge_says_iff known false).2 ⟨found, looked, Matcher.accepts_of_isEmpty isEmpty _⟩

/-- A sword that is shown for a spec, and paper that is offered for a spec of nothing. -/
theorem lookup_agrees_with_matching_sword :
    let settings : Settings := { policy := .exact }
    let answers := respond (some settings.engine)
    let spec := "gems?Diamond_Sword 2 sharpness:3 name:Hoard".toList
    let ask (spec : Text) : Request :=
      { method := "GET".toList, path := "/items/lookup/".toList, query := [("spec".toList, spec)] }
    let offer (spec : Text) (item : Json) : Request :=
      { method := "POST".toList, path := "/items/match".toList,
        body? := some (.object [("item".toList, item), ("spec".toList, .text spec)]) }
    let paper : Json := .object [("material".toList, .text "Paper".toList)]
    (∃ item, (answers (ask spec)).Says "resolved" (.bool true) ∧ (answers (ask spec)).Says "item" item ∧
      (answers (offer spec item)).Says "matches" (.bool true)) ∧
    (answers (ask "air 3".toList)).Says "resolved" (.bool false) ∧
      (answers (offer "air 3".toList paper)).Says "matches" (.bool false) := by
  intro settings answers spec ask offer paper
  have asks (spec : Text) : (ask spec).AsksFor spec :=
    ⟨rfl, (by decide +kernel : Text.upper "GET".toList = "GET".toList), rfl⟩
  have offers (spec : Text) (item : Json) : (offer spec item).Offers spec item :=
    ⟨rfl, (by decide +kernel : Text.upper "POST".toList = "POST".toList), _, rfl, rfl, rfl⟩
  constructor
  · have finds : settings.engine.finds spec (fun _ => true) = true := by decide +kernel
    obtain ⟨found, looked, notEmpty, _⟩ := (Engine.finds_eq_true_iff spec _).1 finds
    have resolved : (answers (ask spec)).Says "resolved" (.bool true) := by
      rw [show answers (ask spec) = lookup settings.engine spec from respond_lookup (asks spec),
        says_resolved_iff]
      exact ⟨found, looked, notEmpty⟩
    obtain ⟨⟨item, shown⟩, matched⟩ := (lookup_agrees_with_matching settings (asks spec)).2.1 resolved
    exact ⟨item, resolved, shown, matched item shown _ (offers spec item)⟩
  · have unresolved : (answers (ask "air 3".toList)).Says "resolved" (.bool false) := ⟨_, rfl, rfl⟩
    exact ⟨unresolved, (lookup_agrees_with_matching settings (asks "air 3".toList)).2.2 unresolved _ paper
      { material := "Paper".toList } .paper (offers _ paper) rfl rfl⟩

end Service

end ItemSpec
