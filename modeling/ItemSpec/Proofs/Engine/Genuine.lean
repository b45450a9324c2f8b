import ItemSpec.Proofs.Engine.Order
import ItemSpec.Proofs.Modifier.BuiltIn
set_option autoImplicit false

/-! Engines as a host sets them up: custom items under their keys and parsers of the library. What an
alternative names then has metadata to show, so its modifiers are read and none is passed over. -/

namespace ItemSpec

/-- Keys are bound to custom items and to nothing else. -/
def Registry.Genuine (registry : Registry) : Prop :=
  ∀ key handle, registry.get? key = some handle → ∃ item : CustomItem, handle = item.handle

theorem Registry.genuine_empty : Registry.empty.Genuine := by
  intro key handle bound
  cases bound

private theorem Registry.Genuine.insert {registry : Registry} (genuine : registry.Genuine) (key : Key)
    (item : CustomItem) : (registry.insert key item.handle).Genuine := by
  intro sought handle bound
  rw [get?_insert] at bound
  split at bound
  · exact ⟨item, (Option.some.inj bound).symm⟩
  · exact genuine sought handle bound

theorem Registry.Genuine.register {registry extended : Registry} (genuine : registry.Genuine)
    (key : Key) (item : CustomItem)
    (registered : (registry.register key item.handle).outcome = .ok extended) : extended.Genuine := by
  unfold Registry.register at registered
  split at registered
  · simp at registered
  · split at registered
    · simp only [Traced.outcome_bind, Traced.outcome_note, Traced.outcome_pure, Fault.ok_bind] at registered
      cases registered
      exact genuine.insert key item
    · split at registered
      · cases registered
        exact genuine
      · simp only [Traced.outcome_bind, Traced.outcome_note, Traced.outcome_pure, Fault.ok_bind] at registered
        cases registered
        exact genuine.insert key item

theorem Registry.Genuine.remove {registry reduced : Registry} (genuine : registry.Genuine) (key : Key)
    (removed : (registry.remove key).outcome = .ok reduced) : reduced.Genuine := by
  unfold Registry.remove at removed
  split at removed
  · cases removed
    exact genuine
  · simp only [Traced.outcome_bind, Traced.outcome_note, Traced.outcome_pure, Fault.ok_bind] at removed
    cases removed
    intro sought handle bound
    rw [get?_erase] at bound
    split at bound
    · cases bound
    · exact genuine sought handle bound

inductive Base.Genuine : Base → Prop where
  | material {material : Material} (solid : material ≠ .air) : Genuine (.material material)
  | item (item : CustomItem) : Genuine (.item item.handle)

theorem Base.Genuine.readable {base : Base} (genuine : base.Genuine) :
    ∃ data, base.found.matcher.representative.meta? = some data := by
  cases genuine with
  | material solid => exact ⟨.blank, by simp [Base.found, Found.matcher, Matcher.representative,
      Stack.of, Stack.settle, solid]⟩
  | item item =>
      show ∃ data, item.toMatcher.representative.meta? = some data
      rw [item.representative_toMatcher]
      exact Option.isSome_iff_exists.1 item.readable

theorem CustomItem.accepts_own (item : CustomItem) :
    item.toMatcher.accepts item.toMatcher.representative = .ok true := by
  rw [item.accepts_toMatcher, item.representative_toMatcher, item.accepted]

def CustomItem.gems : CustomItem where
  serial := 1
  key := ⟨"vault".toList, "gems".toList⟩
  definition := .test (Condition.leastAmount 5).test
  item := .of .diamond 5
  settled := Stack.settle_settled _
  readable := rfl
  accepted := rfl

namespace Engine

open Modifier (BuiltIn)

def offering (item : CustomItem) (kinds : List BuiltIn) : Engine where
  registry := Registry.empty.insert item.key item.handle
  parsers := kinds.map BuiltIn.parser

theorem offering_genuine (item : CustomItem) (kinds : List BuiltIn) :
    (offering item kinds).registry.Genuine :=
  Registry.genuine_empty.insert item.key item

def finds (engine : Engine) (spec : Text) (passes : Matcher → Bool) : Bool :=
  match (engine.lookup spec).outcome with
  | .ok found => !found.matcher.isEmpty && passes found.matcher
  | .error _ => false

variable {engine : Engine}

theorem finds_eq_true_iff (spec : Text) (passes : Matcher → Bool) :
    engine.finds spec passes = true ↔
      ∃ found, (engine.lookup spec).outcome = .ok found ∧ found.matcher.isEmpty = false ∧
        passes found.matcher = true := by
  unfold finds
  cases (engine.lookup spec).outcome with
  | error fault => simp
  | ok found => simp

private theorem Names.genuine {token : Text} {base : Base} {named : Int}
    (names : engine.Names token base named)
    (genuine : engine.registry.Genuine) : base.Genuine := by
  cases names with
  | material parts resolved solid => exact .material solid
  | item parts bound =>
      obtain ⟨item, rfl⟩ := genuine _ _ bound
      exact .item item
  | materialAmount parts unbound resolved solid number => exact .material solid
  | itemAmount parts bound number =>
      obtain ⟨item, rfl⟩ := genuine _ _ bound
      exact .item item

theorem Reads.genuine {alternative : Text} {order : Order} (reads : engine.Reads alternative order)
    (genuine : engine.registry.Genuine) : order.base.Genuine := by
  cases reads with
  | intro tokens notEmpty names counts => exact names.genuine genuine

theorem Reads.bound {alternative : Text} {order : Order} (reads : engine.Reads alternative order)
    {handle : Handle} (isItem : order.base = .item handle) :
    ∃ key, engine.registry.get? key = some handle := by
  obtain ⟨_, _, names, _⟩ := reads
  cases isItem
  cases names with
  | item parts bound => exact ⟨_, bound⟩
  | itemAmount parts bound number => exact ⟨_, bound⟩

theorem Orders.genuine {spec : Text} {found : Found} {order : Order} (orders : engine.Orders spec found order)
    (genuine : engine.registry.Genuine) : order.base.Genuine := by
  obtain ⟨_, _, reads⟩ := orders
  exact reads.genuine genuine

def dressBy (kinds : List BuiltIn) (base : Found) (modifiers : List Text) (before : Meta) : Found :=
  dress base (kinds.flatMap (BuiltIn.added modifiers)) before (BuiltIn.writeAll kinds modifiers before)

section BuiltIns

variable {kinds : List BuiltIn} (parsers : engine.parsers = kinds.map BuiltIn.parser) {base : Found}
  {modifiers : List Text} {before : Meta} (readable : base.matcher.representative.meta? = some before)

include parsers readable

theorem modify_of_requested
    (requested : ∀ kind ∈ kinds, (kind.rule.request modifiers).outcome = .ok (kind.asked modifiers)) :
    (engine.modify base modifiers).outcome = .ok (some (dressBy kinds base modifiers before)) := by
  obtain ⟨read, written⟩ := BuiltIn.readAll_of_requested before requested
  rw [engine.modify_of_readable base modifiers readable, parsers]
  simp only [read, written, dressBy]

theorem modify_of_unrequested
    (unrequested : ¬∀ kind ∈ kinds, (kind.rule.request modifiers).outcome = .ok (kind.asked modifiers)) :
    (engine.modify base modifiers).outcome = .ok none := by
  obtain ⟨fault, gaveUp⟩ := BuiltIn.readAll_of_unrequested before unrequested
  rw [engine.modify_of_readable base modifiers readable, parsers]
  simp only [gaveUp]

private theorem modify_builtIns {dressed : Found}
    (modified : (engine.modify base modifiers).outcome = .ok (some dressed)) :
    (∀ kind ∈ kinds, (kind.rule.request modifiers).outcome = .ok (kind.asked modifiers)) ∧
      (∀ stack, dressed.matcher.accepts stack = Verdict.both (base.matcher.accepts stack)
        (Test.all (kinds.flatMap (BuiltIn.added modifiers)) (.stack stack))) ∧
      dressed.matcher.representative =
        { base.matcher.representative with meta? := some (BuiltIn.writeAll kinds modifiers before) } := by
  by_cases requested : ∀ kind ∈ kinds, (kind.rule.request modifiers).outcome = .ok (kind.asked modifiers)
  · rw [modify_of_requested parsers readable requested] at modified
    cases modified
    exact ⟨requested, accepts_dress base _ before _, representative_dress base _ _ readable⟩
  · rw [modify_of_unrequested parsers readable requested] at modified
    cases modified

end BuiltIns

/-- A stack in the amount that was asked for, with the modifiers written into its metadata. -/
def Order.edit (order : Order) (kinds : List BuiltIn) (stack : Stack) : Stack where
  material := stack.material
  amount := if order.amount = 1 then stack.amount else order.amount
  meta? := stack.meta?.map (BuiltIn.writeAll kinds order.modifiers)

/-- What an order comes to with parsers of the library. -/
structure Fills (engine : Engine) (kinds : List BuiltIn) (order : Order) (found : Found) : Prop where
  genuine : order.base.Genuine
  requested : ∀ kind ∈ kinds,
    (kind.rule.request order.modifiers).outcome = .ok (kind.asked order.modifiers)
  accepts : ∀ stack, found.matcher.accepts stack =
    Verdict.both
      (Verdict.both (order.base.found.matcher.accepts stack)
        (Test.all (kinds.flatMap (BuiltIn.added order.modifiers)) (.stack stack)))
      (.ok (decide (order.amount = 1) || engine.policy.accepts stack.amount order.amount))
  representative : found.matcher.representative =
    order.edit kinds order.base.found.matcher.representative

theorem lookup_fills {kinds : List BuiltIn} {spec : Text} {found : Found}
    (parsers : engine.parsers = kinds.map BuiltIn.parser) (customs : engine.registry.Genuine)
    (looked : (engine.lookup spec).outcome = .ok found)
    (notEmpty : found.matcher.isEmpty = false) :
    ∃ order, engine.Orders spec found order ∧ engine.Fills kinds order found := by
  obtain ⟨order, dressed, orders, modified, rfl⟩ := lookup_orders looked notEmpty
  have genuine := orders.genuine customs
  obtain ⟨data, readable⟩ := genuine.readable
  obtain ⟨requested, accepts, representative⟩ := modify_builtIns parsers readable modified
  refine ⟨order, orders, genuine, requested, ?_, ?_⟩
  · intro stack
    rw [accepts_count, accepts]
  · rw [representative_count, representative]
    simp only [Order.edit, readable, Option.map_some]

end Engine

end ItemSpec
